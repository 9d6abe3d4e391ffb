/-!
# Binary fractions of limited precision

A finite number has a sign, at most 53 binary digits and an exponent of at least
-1074. A decimal fraction is read as the nearest such number, and halfway between
two as the one with the even last digit.
-/

namespace HeaderScan.Decimal

/-- The number `digits * 2 ^ exponent`, with a sign. -/
structure Binary where
  /-- The number is below zero, or a negative zero. -/
  isNegative : Bool
  /-- The digits as a whole number. -/
  digits : Nat
  /-- The exponent of two. -/
  exponent : Int
deriving DecidableEq

namespace Binary

/-- One more than the largest whole number of 53 binary digits. -/
def digitLimit : Nat := Nat.pow 2 53

/-- The least exponent. -/
def minExponent : Int := -1074

/-- The greatest exponent. -/
def maxExponent : Int := 971

/-- The quotient rounded to the nearest whole number, to an even one halfway between two. -/
def roundDiv (num den : Nat) : Nat :=
  let floor := num / den
  let twice := 2 * (num % den)
  if twice < den then floor
  else if den < twice then floor + 1
  else floor + floor % 2

/-- The quotient divided by a power of two, rounded. -/
def scaledDiv (num den : Nat) (exponent : Int) : Nat :=
  if 0 ≤ exponent then roundDiv num (den * Nat.pow 2 exponent.toNat)
  else roundDiv (num * Nat.pow 2 (-exponent).toNat) den

/-- The number nearest to a positive quotient; nothing if it is too large. -/
def nearestQuotient? (isNegative : Bool) (num den : Nat) : Option Binary :=
  let guess : Int := (num.log2 : Int) - den.log2 - 53
  let isTooFine (exponent : Int) : Bool := digitLimit < scaledDiv num den exponent
  let exponent := if isTooFine guess then guess + 1 else guess
  let exponent := max (if isTooFine exponent then exponent + 1 else exponent) minExponent
  let digits := scaledDiv num den exponent
  let (digits, exponent) :=
    if digits = digitLimit then (Nat.pow 2 52, exponent + 1) else (digits, exponent)
  if maxExponent < exponent then none else some ⟨isNegative, digits, exponent⟩

/-- The number nearest to `digits * 10 ^ exponent`; nothing if it is too large. -/
def ofDecimal? (isNegative : Bool) (digits : Nat) (exponent : Int) : Option Binary :=
  let magnitude := exponent + (Nat.toDigits 10 digits).length
  if digits = 0 ∨ magnitude < -400 then some ⟨isNegative, 0, minExponent⟩
  else if 400 < magnitude then none
  else if 0 ≤ exponent then nearestQuotient? isNegative (digits * Nat.pow 10 exponent.toNat) 1
  else nearestQuotient? isNegative digits (Nat.pow 10 (-exponent).toNat)

end Binary

end HeaderScan.Decimal
