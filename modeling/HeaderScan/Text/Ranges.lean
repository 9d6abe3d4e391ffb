/-!
# Sets of characters as ranges

A set of code points is given by the places where membership changes, in
increasing order: it holds from the first place up to the second, not from there
up to the third, and so on.
-/

namespace HeaderScan.Text

/-- A set of code points, given by its boundaries. -/
structure Ranges where
  /-- The places where membership changes, in increasing order. -/
  bounds : Array Nat

namespace Ranges

/-- How many of the boundaries from `low` up to `high` are at or before a code
point, added to `low`; so many halvings suffice. -/
def countWithin (ranges : Ranges) (code : Nat) : Nat → Nat → Nat → Nat
  | 0, low, _ => low
  | halvings + 1, low, high =>
    if low < high then
      let middle := (low + high) / 2
      if ranges.bounds.getD middle 0 ≤ code then countWithin ranges code halvings (middle + 1) high
      else countWithin ranges code halvings low middle
    else low

/-- How many boundaries are at or before a code point. -/
def countUpTo (ranges : Ranges) (code : Nat) : Nat :=
  ranges.countWithin code (ranges.bounds.size.log2 + 1) 0 ranges.bounds.size

/-- The code point is in the set: an odd number of boundaries lies at or before it. -/
def contains (ranges : Ranges) (code : Nat) : Bool := ranges.countUpTo code % 2 == 1

end Ranges

end HeaderScan.Text
