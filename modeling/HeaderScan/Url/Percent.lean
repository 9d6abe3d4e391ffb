import HeaderScan.Text.Utf8

/-!
# Percent-encoding

A byte may be written as a percent sign and two digits in base sixteen. Which
characters are written like this depends on the part of the URL; characters beyond
ASCII always are. A percent sign itself is left as it is.
-/

namespace HeaderScan.Url

/-- The digit of a value below sixteen. -/
def hexDigit (value : Nat) : Char := (Nat.digitChar value).toUpper

/-- A byte as a percent sign and two digits. -/
def escapeByte (b : UInt8) : List Char := ['%', hexDigit (b.toNat / 16), hexDigit (b.toNat % 16)]

/-- Encode the characters that are beyond ASCII or for which the condition holds. -/
def percentEncode (isEscaped : Char → Bool) (chars : List Char) : List Char :=
  chars.flatMap fun c =>
    if 0x80 ≤ c.toNat || isEscaped c then (Text.encodeUtf8 (String.singleton c)).flatMap escapeByte
    else [c]

/-- Controls are encoded everywhere. -/
def isControl (c : Char) : Bool := c.toNat < 0x20 || c.toNat = 0x7F

/-- What is encoded in a fragment. -/
def isFragmentEscape (c : Char) : Bool := isControl c || [' ', '"', '<', '>', '`'].contains c

/-- What is encoded in a path. -/
def isPathEscape (c : Char) : Bool := isFragmentEscape c || ['#', '?', '\x7b', '\x7d'].contains c

/-- What is encoded in a user name or a password. -/
def isUserEscape (c : Char) : Bool :=
  isPathEscape c || ['/', ':', ';', '=', '@', '[', '\\', ']', '^', '|'].contains c

/-- What is encoded in a query; the apostrophe only for some schemes. -/
def isQueryEscape (isSpecial : Bool) (c : Char) : Bool :=
  isControl c || [' ', '"', '#', '<', '>'].contains c || (isSpecial && c = '\'')

/-- The value of a digit in base sixteen. -/
def hexValue? (b : UInt8) : Option UInt8 :=
  if 0x30 ≤ b && b ≤ 0x39 then some (b - 0x30)
  else if 0x41 ≤ b && b ≤ 0x46 then some (b - 0x37)
  else if 0x61 ≤ b && b ≤ 0x66 then some (b - 0x57)
  else none

/-- The bytes that encoded bytes stand for. -/
def percentDecode : List UInt8 → List UInt8
  | [] => []
  | 0x25 :: high :: low :: rest =>
    match hexValue? high, hexValue? low with
    | some h, some l => (h * 16 + l) :: percentDecode rest
    | _, _ => 0x25 :: percentDecode (high :: low :: rest)
  | b :: rest => b :: percentDecode rest

end HeaderScan.Url
