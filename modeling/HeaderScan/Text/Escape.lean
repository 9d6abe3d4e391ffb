import HeaderScan.Text.Unprintable

/-!
# Escaped characters and quoted texts

A character is escaped so that its form is plain ASCII. A text is quoted so that
everything in it which does not print is escaped.
-/

namespace HeaderScan.Text

/-- The lower-case hexadecimal digits of a number. -/
def hexDigits (n : Nat) : List Char := Nat.toDigits 16 n

/-- A character by its number, as in `\u{e9}`. -/
def codePointEscape (c : Char) : List Char := "\\u\x7b".toList ++ hexDigits c.toNat ++ ['\x7d']

/-- A character in plain ASCII: quotes and backslashes are escaped, and what is
no printable ASCII character is given by its number. -/
def asciiEscape (c : Char) : List Char :=
  if c = '\t' then ['\\', 't']
  else if c = '\r' then ['\\', 'r']
  else if c = '\n' then ['\\', 'n']
  else if c = '\\' || c = '"' || c = '\'' then ['\\', c]
  else if 0x20 ≤ c.toNat && c.toNat < 0x7F then [c]
  else codePointEscape c

/-- A character as it stands in a quoted text. -/
def quotedEscape (c : Char) : List Char :=
  if c = '\t' then ['\\', 't']
  else if c = '\r' then ['\\', 'r']
  else if c = '\n' then ['\\', 'n']
  else if c = '\x00' then ['\\', '0']
  else if c = '\\' || c = '"' then ['\\', c]
  else if isUnprintable c then codePointEscape c
  else [c]

/-- A text between quotation marks. -/
def quote (text : String) : String :=
  .ofList ('"' :: text.toList.flatMap quotedEscape ++ ['"'])

end HeaderScan.Text
