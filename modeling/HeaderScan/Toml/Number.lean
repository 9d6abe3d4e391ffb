import HeaderScan.Toml.Token
import HeaderScan.Toml.Value

/-!
# Numbers

A whole number is written in base ten with an optional sign, or in base two,
eight or sixteen behind its mark. Underscores may stand between digits.
-/

namespace HeaderScan.Toml

/-- Which digits may be written, and how. -/
structure DigitRule where
  /-- The base. -/
  base : Nat
  /-- A sign may stand in front. -/
  hasSign : Bool
  /-- Further digits may follow a leading zero. -/
  hasLeadingZeros : Bool

namespace DigitRule

/-- Whole numbers in base ten. -/
def whole : DigitRule := ⟨10, true, false⟩

/-- Whole numbers in another base. -/
def marked (base : Nat) : DigitRule := ⟨base, false, true⟩

/-- The digits after a point, and exponents after a plus sign. -/
def plain : DigitRule := ⟨10, false, true⟩

/-- Exponents. -/
def exponent : DigitRule := ⟨10, true, true⟩

/-- The character is a digit of the base. -/
def isDigit (rule : DigitRule) (c : Char) : Bool := (Lex.hexValue? c).any (· < rule.base)

/-- How far some digits have been read. -/
structure State where
  /-- No digit has been read. -/
  isFirst : Bool
  /-- The first digit was a zero. -/
  hasZero : Bool
  /-- The last character was an underscore. -/
  isGap : Bool

/-- Read digits from the character with this index on; how many characters there are
before the first that does not belong to them, or the index of the one that is wrong. -/
def countFrom (rule : DigitRule) (index : Nat) (state : State) : List Char → Except Nat Nat
  | [] => finish
  | c :: rest =>
    if c = '0' && state.isFirst then rule.countFrom (index + 1) ⟨false, true, state.isGap⟩ rest
    else if rule.isDigit c then
      if !state.isFirst && state.hasZero && !rule.hasLeadingZeros then .error index
      else rule.countFrom (index + 1) ⟨false, state.hasZero, false⟩ rest
    else if c = '_' && state.isFirst then .error index
    else if c = '_' && !state.isGap then
      rule.countFrom (index + 1) ⟨false, state.hasZero, true⟩ rest
    else finish
where
  finish : Except Nat Nat := if state.isFirst || state.isGap then .error 0 else .ok index

/-- The digits at the beginning of some characters, with their sign, and the rest. -/
def split (rule : DigitRule) (offset : Nat) (chars : List Char) :
    Except Fault (List Char × List Char) :=
  let signs := if rule.hasSign then (chars.take 1).filter (fun c => c = '+' || c = '-') else []
  match rule.countFrom signs.length ⟨true, false, false⟩ (chars.drop signs.length) with
  | .ok count => .ok (chars.take count, chars.drop count)
  | .error index => .error ⟨offset + index, .badNumber⟩

end DigitRule

/-- The value of digits in a base; anything else among them is skipped. -/
def digitValue (base : Nat) (chars : List Char) : Nat :=
  (chars.filterMap Lex.hexValue?).foldl (fun value digit => value * base + digit) 0

/-- The value of digits in base ten with a sign. -/
def signedValue (chars : List Char) : Int :=
  let value : Int := digitValue 10 chars
  if chars.head? = some '-' then -value else value

/-- The whole number that all of the characters spell, if it fits into 64 bits with sign. -/
def wholeNumber (rule : DigitRule) (offset : Nat) (chars : List Char) : Except Fault Int := do
  let (digits, rest) ← rule.split offset chars
  let magnitude := digitValue rule.base digits
  let value : Int := if digits.head? = some '-' then -magnitude else magnitude
  if rest.isEmpty ∧ -0x8000000000000000 ≤ value ∧ value < 0x8000000000000000 then return value
  else throw ⟨offset, .badNumber⟩

/-- The number with these digits before and after the point and this exponent. -/
def floatOf (offset : Nat) (whole fraction : List Char) (exponent : Int) :
    Except Fault Floating :=
  let places := (fraction.filterMap Lex.hexValue?).length
  match Decimal.Binary.ofDecimal? (whole.head? = some '-') (digitValue 10 (whole ++ fraction))
      (exponent - places) with
  | some value => .ok (.finite value)
  | none => .error ⟨offset, .badNumber⟩

end HeaderScan.Toml
