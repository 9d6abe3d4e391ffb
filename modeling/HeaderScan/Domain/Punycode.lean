/-!
# Punycode

Text in other letters is written in ASCII: its ASCII characters come first, and
after a hyphen follows where the others belong. Each is one number, the distance
from the one before in the order of code points and places. Numbers are written in
base thirty-six, the lowest digit first, and end with a digit below a threshold
that adapts to their size.
-/

namespace HeaderScan.Domain.Punycode

/-- The digit with a value. -/
def digit (value : Nat) : Char :=
  if value < 26 then Char.ofNat ('a'.toNat + value) else Char.ofNat ('0'.toNat + value - 26)

/-- The value of a digit. -/
def value? (c : Char) : Option Nat :=
  if 'a' ≤ c && c ≤ 'z' then some (c.toNat - 'a'.toNat)
  else if 'A' ≤ c && c ≤ 'Z' then some (c.toNat - 'A'.toNat)
  else if c.isDigit then some (c.toNat - '0'.toNat + 26)
  else none

/-- The threshold at a position, which counts in steps of thirty-six. -/
def threshold (bias position : Nat) : Nat := max 1 (min 26 (position - bias))

/-- Divide by thirty-five as long as the number is large; the count grows by
thirty-six each time. -/
def shrink (n count : Nat) : Nat × Nat :=
  if 455 < n then shrink (n / 35) (count + 36) else (n, count)
termination_by n

/-- The bias after a number, for a text of this length. -/
def adapt (number length : Nat) (isFirst : Bool) : Nat :=
  let scaled := if isFirst then number / 700 else number / 2
  let (rest, count) := shrink (scaled + scaled / length) 0
  count + 36 * rest / (rest + 38)

/-- The digits of a number. -/
def digits (bias position number : Nat) : List Char :=
  let t := threshold bias position
  if number < t then [digit number]
  else digit (t + (number - t) % (36 - t)) :: digits bias (position + 36) ((number - t) / (36 - t))
termination_by number
decreasing_by
  have : 1 ≤ threshold bias position := by unfold threshold; omega
  have := Nat.div_le_self (number - threshold bias position) (36 - threshold bias position)
  omega

/-- Text that is being written. -/
structure Writing where
  /-- The digits so far. -/
  output : List Char
  /-- The distance since the last number. -/
  distance : Nat
  /-- The bias for the next number. -/
  bias : Nat
  /-- How many characters have been written. -/
  written : Nat

/-- Pass a character of the text on the way to all characters with this code point;
`ascii` of all characters are ASCII. -/
def Writing.pass (ascii code : Nat) (writing : Writing) (c : Char) : Writing :=
  if c.toNat < code then { writing with distance := writing.distance + 1 }
  else if c.toNat = code then
    { output := writing.output ++ digits writing.bias 36 writing.distance
      distance := 0
      bias := adapt writing.distance (writing.written + 1) (writing.written == ascii)
      written := writing.written + 1 }
  else writing

/-- Write the characters with these code points, which increase from `next` on. -/
def writeAll (text : List Char) (ascii : Nat) (next : Nat) (writing : Writing) : List Nat → Writing
  | [] => writing
  | code :: rest =>
    let distance := writing.distance + (code - next) * (writing.written + 1)
    let writing := text.foldl (Writing.pass ascii code) { writing with distance }
    writeAll text ascii (code + 1) { writing with distance := writing.distance + 1 } rest

/-- The text in ASCII. -/
def encode (text : List Char) : List Char :=
  let ascii := text.filter (·.toNat < 0x80)
  let codes := ((text.map Char.toNat).filter (0x80 ≤ ·)).mergeSort.eraseDups
  let writing := writeAll text ascii.length 0x80 ⟨[], 0, 72, ascii.length⟩ codes
  ascii ++ (if ascii = [] then [] else ['-']) ++ writing.output

/-- Numbers have to be below this one. -/
def limit : Nat := 0x100000000

/-- Read a number that is added to the given one, with the weight of the next digit:
the sum and what follows. -/
def readNumber (bias position weight sum : Nat) : List Char → Option (Nat × List Char)
  | [] => none
  | c :: rest => do
    let value ← value? c
    let sum := sum + value * weight
    let t := threshold bias position
    if limit ≤ sum then none
    else if value < t then some (sum, rest)
    else if limit ≤ weight * (36 - t) then none
    else readNumber bias (position + 36) (weight * (36 - t)) sum rest

/-- Text that is being read. -/
structure Reading where
  /-- The characters so far. -/
  text : List Char
  /-- The code point of the latest character. -/
  code : Nat
  /-- The place after it. -/
  place : Nat
  /-- The bias for the next number. -/
  bias : Nat

/-- Insert the character at a distance from the latest one. -/
def Reading.insert? (reading : Reading) (sum : Nat) : Option Reading :=
  let length := reading.text.length + 1
  let code := reading.code + sum / length
  let place := sum % length
  if code.isValidChar then
    some {
      text := reading.text.insertIdx place (Char.ofNat code)
      code
      place := place + 1
      bias := adapt (sum - reading.place) length (reading.place == 0 && reading.code == 0x80) }
  else none

/-- Read numbers to the end of the digits, which bound their number. -/
def readAll : Nat → Reading → List Char → Option (List Char)
  | _, reading, [] => some reading.text
  | 0, _, _ => none
  | fuel + 1, reading, digits => do
    let (sum, rest) ← readNumber reading.bias 36 1 reading.place digits
    readAll fuel (← reading.insert? sum) rest

/-- The text that ASCII characters stand for, if they do for any. -/
def decode? (ascii : List Char) : Option (List Char) :=
  let tail := (ascii.reverse.takeWhile (· ≠ '-')).reverse
  let head := ascii.take (ascii.length - tail.length - 1)
  let digits := if head = [] then ascii else tail
  readAll digits.length ⟨head, 0x80, 0, 72⟩ digits

end HeaderScan.Domain.Punycode
