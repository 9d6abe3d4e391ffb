import HeaderScan.Url.Ipv4

/-!
# IPv6 addresses

An address is eight numbers of sixteen bits in base sixteen, with colons between.
Two colons stand for as many zeros as are missing, and the last two numbers may be
written as an IPv4 address.
-/

namespace HeaderScan.Url.Ipv6

/-- The pieces that have been read, and after how many of them zeros are missing. -/
structure Pieces where
  /-- The pieces. -/
  values : List Nat
  /-- The number of pieces before the missing zeros. -/
  gap : Option Nat

/-- The byte that a part of a dotted ending spells, without needless zeros. -/
def byte? (digits : List Char) : Option Nat := do
  guard (digits ≠ [] && digits.all Char.isDigit && (digits.head? ≠ some '0' || digits.length = 1))
  let value ← Ipv4.ofDigits? 10 digits
  if value < 256 then some value else none

/-- The two pieces that a dotted ending makes. -/
def ending? (chars : List Char) : Option (List Nat) := do
  match ← (chars.splitOn '.').mapM byte? with
  | [a, b, c, d] => some [a * 256 + b, c * 256 + d]
  | _ => none

/-- The character is a digit in base sixteen. -/
def isHexDigit (c : Char) : Bool := (Ipv4.ofDigits? 16 [c]).isSome

/-- Read pieces to the end. -/
def readPieces (read : Pieces) (chars : List Char) : Option Pieces :=
  match chars with
  | [] => some read
  | c :: rest =>
    if read.values.length = 8 then none
    else if c = ':' then
      if read.gap.isSome then none
      else readPieces ⟨read.values ++ [0], some (read.values.length + 1)⟩ rest
    else
      let digits := ((c :: rest).take 4).takeWhile isHexDigit
      let values := read.values ++ [Text.hexNumber digits]
      match _h : (c :: rest).drop digits.length with
      | [] => some { read with values }
      | '.' :: _ =>
        if digits = [] || read.values.length > 6 then none
        else (ending? (c :: rest)).map fun pieces => { read with values := read.values ++ pieces }
      | ':' :: after => if after = [] then none else readPieces { read with values } after
      | _ => none
termination_by chars.length
decreasing_by
  · simp
  · have := congrArg List.length _h
    simp only [List.length_drop, List.length_cons] at this ⊢
    omega

/-- Put the missing zeros in. -/
def Pieces.complete? (read : Pieces) : Option (List Nat) :=
  match read.gap with
  | some gap =>
    some (read.values.take gap ++ List.replicate (8 - read.values.length) 0 ++ read.values.drop gap)
  | none => if read.values.length = 8 then some read.values else none

/-- The pieces of the address that a text spells. -/
def ofText? (chars : List Char) : Option (List Nat) := do
  let read ←
    match chars with
    | ':' :: ':' :: rest => readPieces ⟨[0], some 1⟩ rest
    | ':' :: _ | [] | [_] => none
    | _ => readPieces ⟨[], none⟩ chars
  read.complete?

/-- How many zeros the list begins with. -/
def leadingZeros (pieces : List Nat) : Nat := (pieces.takeWhile (· == 0)).length

/-- Where the longest row of at least two zeros begins, and how long it is; of rows of
the same length the first. -/
def longestZeros (pieces : List Nat) : Nat × Nat :=
  let rows := (List.range pieces.length).map fun i => (i, leadingZeros (pieces.drop i))
  rows.foldl (fun best row => if best.2 < row.2 then row else best) (pieces.length, 1)

/-- Pieces in base sixteen with colons between. -/
def joined (pieces : List Nat) : String :=
  ":".intercalate (pieces.map fun piece => .ofList (Nat.toDigits 16 piece))

/-- The address with two colons for the longest row of zeros. -/
def text (pieces : List Nat) : String :=
  let (start, length) := longestZeros pieces
  if start = pieces.length then joined pieces
  else joined (pieces.take start) ++ "::" ++ joined (pieces.drop (start + length))

end HeaderScan.Url.Ipv6
