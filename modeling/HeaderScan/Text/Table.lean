import HeaderScan.Text.Ranges

/-!
# Tables of character properties

A table is written as numbers in base sixteen, divided by blanks. Where a property
has more than two values, the table gives each place at which the value changes,
and the value from there on.
-/

namespace HeaderScan.Text

/-- The value of a digit in base sixteen. -/
def hexDigitValue (c : Char) : Nat :=
  if c.isDigit then c.toNat - '0'.toNat
  else if 'a' ≤ c && c ≤ 'f' then c.toNat - 'a'.toNat + 10
  else c.toNat - 'A'.toNat + 10

/-- The number that digits in base sixteen spell. -/
def hexNumber (digits : List Char) : Nat := digits.foldl (fun n c => n * 16 + hexDigitValue c) 0

/-- The pieces of a text between blanks. -/
def words (text : String) : List (List Char) :=
  (text.toList.splitOnP Char.isWhitespace).filter (· ≠ [])

/-- The numbers that a text lists. -/
def hexNumbers (text : String) : List Nat := (words text).map hexNumber

/-- The numbers of a list two by two. -/
def inPairs : List Nat → List (Nat × Nat)
  | a :: b :: rest => (a, b) :: inPairs rest
  | _ => []

/-- A property with a number for each code point. -/
structure Steps where
  /-- The places where the value changes, in increasing order. -/
  places : Ranges
  /-- The values from these places on. -/
  values : Array Nat

namespace Steps

/-- The property that a text describes: places and values in turns. -/
def ofText (text : String) : Steps :=
  let steps := inPairs (hexNumbers text)
  ⟨⟨(steps.map Prod.fst).toArray⟩, (steps.map Prod.snd).toArray⟩

/-- The value for a character; before the first place it is zero. -/
def value (steps : Steps) (c : Char) : Nat :=
  match steps.places.countUpTo c.toNat with
  | 0 => 0
  | count + 1 => steps.values.getD count 0

end Steps

end HeaderScan.Text
