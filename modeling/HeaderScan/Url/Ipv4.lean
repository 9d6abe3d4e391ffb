import HeaderScan.Text.Table

/-!
# IPv4 addresses

A name whose last part is a number is an address of one to four numbers, each in
base ten, sixteen or eight. The last number fills what the others leave.
-/

namespace HeaderScan.Url.Ipv4

/-- The number that digits in a base spell, if they all are such digits. -/
def ofDigits? (base : Nat) (digits : List Char) : Option Nat :=
  let value (c : Char) := Text.hexDigitValue c
  let isDigit (c : Char) :=
    (c.isDigit || ('a' ≤ c && c ≤ 'f') || ('A' ≤ c && c ≤ 'F')) && value c < base
  if digits.all isDigit then some (digits.foldl (fun n c => n * base + value c) 0) else none

/-- The number that a part spells. -/
def number? : List Char → Option Nat
  | [] => none
  | '0' :: 'x' :: digits | '0' :: 'X' :: digits => ofDigits? 16 digits
  | '0' :: digit :: digits => ofDigits? 8 (digit :: digits)
  | digits => ofDigits? 10 digits

/-- The parts of a name; a dot at the end is left out. -/
def parts (name : List Char) : List (List Char) :=
  let parts := name.splitOn '.'
  if parts.getLast? = some [] then parts.dropLast else parts

/-- The last part of the name is a number. -/
def endsInNumber (name : List Char) : Bool :=
  match (parts name).getLast? with
  | none | some [] => false
  | some last => last.all Char.isDigit || (number? last).isSome

/-- The address of these numbers; all but the last are bytes. -/
def ofNumbers? (numbers : List Nat) : Option Nat := do
  let last ← numbers.getLast?
  let bytes := numbers.dropLast
  guard (numbers.length ≤ 4 && bytes.all (· < 256) && last < Nat.pow 256 (4 - bytes.length))
  return bytes.foldl (fun n byte => n * 256 + byte) 0 * Nat.pow 256 (4 - bytes.length) + last

/-- The address that a name spells. -/
def ofName? (name : List Char) : Option Nat := do ofNumbers? (← (parts name).mapM number?)

/-- The address as four bytes with dots between. -/
def text (address : Nat) : String :=
  let byte (weight : Nat) := (address / weight % 256).repr
  byte 0x1000000 ++ "." ++ byte 0x10000 ++ "." ++ byte 0x100 ++ "." ++ byte 1

end HeaderScan.Url.Ipv4
