import HeaderScan.Decimal.Shortest
import HeaderScan.Toml.Error

/-!
# Values

The values of a document, each with the offset at which it begins.
-/

namespace HeaderScan.Toml

/-- A floating point number of a document. -/
inductive Floating where
  | finite (value : Decimal.Binary)
  | infinite (isNegative : Bool)
  | nan
deriving DecidableEq

/-- How errors write a floating point number. -/
def Floating.text : Floating → String
  | finite value => Decimal.text value
  | infinite isNegative => if isNegative then "-inf" else "inf"
  | nan => "NaN"

/-- A value of a document. Dates and times are not told apart. -/
inductive Value where
  | string (offset : Nat) (text : String)
  | integer (offset : Nat) (value : Int)
  | floating (offset : Nat) (value : Floating)
  | boolean (offset : Nat) (value : Bool)
  | moment (offset : Nat)
  | array (offset : Nat) (items : List Value)
  /-- A table in braces or, if it is open, one that dotted keys have made. -/
  | table (offset : Nat) (isOpen : Bool) (entries : List (String × Value))

namespace Value

/-- The offset at which a value begins. -/
def offset : Value → Nat
  | string offset _ | integer offset _ | floating offset _ | boolean offset _ | moment offset
  | array offset _ | table offset _ _ => offset

end Value

/-- Entries of a table, in order. -/
abbrev Entries := List (String × Value)

/-- Put a value under a dotted key at the end of some entries. A key of several
parts goes through tables that such keys have made, and through nothing else. -/
def Entries.addDotted (entries : Entries) (value : Value) (key : String) :
    List String → Except Fault Entries
  | [] => .ok (entries ++ [(key, value)])
  | next :: more =>
    let index := entries.findIdx (·.1 = key)
    match entries[index]? with
    | some (_, .table offset true inner) => do
      let inner ← Entries.addDotted inner value next more
      return entries.set index (key, .table offset true inner)
    | some (_, other) => .error ⟨other.offset, .dottedThroughValue⟩
    | none => do
      let inner ← Entries.addDotted [] value next more
      return entries ++ [(key, .table value.offset true inner)]

end HeaderScan.Toml
