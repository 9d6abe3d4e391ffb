import HeaderScan.Decimal.Binary

/-!
# The shortest decimal text of a binary fraction

A number is written with the fewest decimal digits that read back to it, and of
those with the digits nearest to it, the greater of two; always positionally.
-/

namespace HeaderScan.Decimal

/-- The value `digits * 10 ^ exponent`. -/
structure Numeral where
  /-- The digits as a whole number. -/
  digits : Nat
  /-- The exponent of ten. -/
  exponent : Int
deriving DecidableEq

/-- Twice the number and the ends of the interval that rounds to it, in units of a
common quarter step and over a common divisor. -/
structure Interval where
  /-- The lower end. -/
  low : Nat
  /-- The number itself. -/
  middle : Nat
  /-- The upper end. -/
  high : Nat
  /-- What all three are to be divided by. -/
  divisor : Nat
  /-- The ends themselves round to the number. -/
  isClosed : Bool

namespace Interval

/-- The interval that rounds to a positive number. Below a power of two the next
number is only half as far away. -/
def of (x : Binary) : Interval :=
  let isNarrow := x.digits = Nat.pow 2 52 && Binary.minExponent < x.exponent
  let exponent := x.exponent - 2
  let scale := Nat.pow 2 exponent.toNat
  ⟨(4 * x.digits - if isNarrow then 1 else 2) * scale, 4 * x.digits * scale,
    (4 * x.digits + 2) * scale, Nat.pow 2 (-exponent).toNat, x.digits % 2 = 0⟩

/-- The decimal value lies in the interval. -/
def contains (interval : Interval) (value : Numeral) : Bool :=
  let scaled := value.digits * Nat.pow 10 value.exponent.toNat * interval.divisor
  let unit := Nat.pow 10 (-value.exponent).toNat
  let low := interval.low * unit
  let high := interval.high * unit
  if interval.isClosed then low ≤ scaled && scaled ≤ high else low < scaled && scaled < high

/-- The whole multiple of a power of ten at or below the middle, and whether the
next multiple is at least as near to the middle. -/
def below (interval : Interval) (exponent : Int) : Nat × Bool :=
  let num := interval.middle * Nat.pow 10 (-exponent).toNat
  let den := interval.divisor * Nat.pow 10 exponent.toNat
  (num / den, den ≤ 2 * (num % den))

/-- The decimal value of the interval on the grid of a power of ten that is nearest to
its middle, if there is one. -/
def onGrid? (interval : Interval) (exponent : Int) : Option Numeral :=
  let (floor, isNextNearer) := interval.below exponent
  let lower : Numeral := ⟨floor, exponent⟩
  let upper : Numeral := ⟨floor + 1, exponent⟩
  let (first, second) := if isNextNearer then (upper, lower) else (lower, upper)
  if interval.contains first then some first
  else if interval.contains second then some second
  else none

/-- The first hit on grids that get finer from this exponent on. -/
def search (interval : Interval) (exponent : Int) : Nat → Option Numeral
  | 0 => none
  | grids + 1 => (interval.onGrid? exponent).or (search interval (exponent - 1) grids)

end Interval

/-- The decimal value with the fewest digits that reads back to a positive number. -/
def shortest (x : Binary) : Numeral :=
  let interval := Interval.of x
  let magnitude := (x.digits.log2 + x.exponent) * 30103 / 100000 + 1
  (interval.search magnitude 20).getD ⟨x.digits, 0⟩

/-- A positive decimal value in positional notation; a whole number ends in `.0`. -/
def positional (value : Numeral) : String :=
  let digits := Nat.toDigits 10 value.digits
  if 0 ≤ value.exponent then
    .ofList (digits ++ List.replicate value.exponent.toNat '0') ++ ".0"
  else
    let places := (-value.exponent).toNat
    let padded := List.replicate (places + 1 - digits.length) '0' ++ digits
    let point := padded.length - places
    .ofList (padded.take point ++ '.' :: padded.drop point)

/-- The text of a number. -/
def text (x : Binary) : String :=
  (if x.isNegative then "-" else "") ++ (if x.digits = 0 then "0.0" else positional (shortest x))

end HeaderScan.Decimal
