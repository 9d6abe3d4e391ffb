/-!
# How alike two texts are

The measure of Jaro and Winkler: one for equal texts, zero for texts that have
nothing in common. Characters match that are equal and stand at about the same
place; matches out of order count less, and a common beginning counts more.
-/

namespace HeaderScan.Text

/-- The matches met so far. -/
structure Matching where
  /-- For each character of the second text, whether it has been matched. -/
  taken : Array Bool
  /-- The number of matches. -/
  matched : Nat
  /-- How many matches stand before their predecessor. -/
  crossings : Nat
  /-- The place of the latest match. -/
  latest : Nat

namespace Matching

/-- Match a character at a place with the first free one in reach. -/
def meet (second : Array Char) (reach : Nat) (matching : Matching) (place : Nat) (c : Char) :
    Matching :=
  let low := place - reach
  let high := min (second.size - 1) (place + reach)
  let free := (List.range' low (high + 1 - low)).find? fun j =>
    second[j]? == some c && matching.taken[j]? == some false
  match free with
  | none => matching
  | some j =>
    { taken := matching.taken.setIfInBounds j true
      matched := matching.matched + 1
      crossings := if j < matching.latest then matching.crossings + 1 else matching.crossings
      latest := j }

/-- The matching of two texts. -/
def ofChars (first second : Array Char) : Matching :=
  let reach := max first.size second.size / 2 - 1
  let start := ⟨Array.replicate second.size false, 0, 0, 0⟩
  first.toList.zipIdx.foldl (fun matching (c, place) => matching.meet second reach place c) start

end Matching

/-- The similarity of two texts by their matching characters. -/
def matchSimilarity (first second : List Char) : Float :=
  if first = second then 1
  else if first.length ≤ 1 && second.length ≤ 1 then 0
  else
    let matching := Matching.ofChars first.toArray second.toArray
    if matching.matched = 0 then 0
    else
      let hits := matching.matched.toFloat
      let inOrder := (hits - matching.crossings.toFloat) / hits
      (1.0 / 3.0) * (hits / first.length.toFloat + hits / second.length.toFloat + inOrder)

/-- The length of the longest common beginning. -/
def commonBeginning : List Char → List Char → Nat
  | a :: first, b :: second => if a = b then commonBeginning first second + 1 else 0
  | _, _ => 0

/-- The similarity of two texts, which a common beginning raises. -/
def similarity (first second : String) : Float :=
  let base := matchSimilarity first.toList second.toList
  let raised := base + 0.1 * (commonBeginning first.toList second.toList).toFloat * (1.0 - base)
  if raised ≤ 1.0 then raised else 1.0

end HeaderScan.Text
