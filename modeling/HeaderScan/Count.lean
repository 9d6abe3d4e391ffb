/-!
# Counts

A count is a number of 64 bits. As text it is a run of decimal digits, which a plus
sign may precede.
-/

namespace HeaderScan.Count

/-- The largest number a count can hold. -/
def max : Nat := 0xFFFFFFFFFFFFFFFF

/-- Why a text is no count. -/
inductive Fault where
  | empty
  | invalidDigit
  | tooLarge
deriving DecidableEq

/-- The fault in words. -/
def Fault.message : Fault → String
  | empty => "cannot parse integer from empty string"
  | invalidDigit => "invalid digit found in string"
  | tooLarge => "number too large to fit in target type"

/-- Append a digit to a count. Of a digit that is none and a count that grows too
large, the former is reported. -/
def appendDigit (count : Nat) (c : Char) : Except Fault Nat :=
  if !c.isDigit then .error .invalidDigit
  else
    let grown := count * 10 + (c.toNat - '0'.toNat)
    if grown ≤ max then .ok grown else .error .tooLarge

/-- The count that a text spells. -/
def ofText (text : String) : Except Fault Nat :=
  match text.toList with
  | [] => .error .empty
  | ['+'] => .error .invalidDigit
  | '+' :: digits | digits => digits.foldlM appendDigit 0

end HeaderScan.Count
