import HeaderScan.Text.Escape

/-!
# Errors in TOML documents

An error has a cause, the keys that lead to the value in question, and where
possible a place in the text.
-/

namespace HeaderScan.Toml

/-- What is wrong with a document. -/
inductive Cause where
  | unexpectedEnd
  | badCharacterInString (c : Char)
  | badEscape (c : Char)
  | badHexEscape (c : Char)
  /-- An escape stands for a number that is no character. -/
  | badEscapeValue (value : Nat)
  | newlineInString
  | unexpectedCharacter (c : Char)
  | unterminatedString
  /-- One token was wanted, another found. -/
  | wanted (expected found : String)
  | badNumber
  | badDate
  | duplicateTable (name : String)
  | tableRedefinedAsArray
  | multilineKey
  /-- A dotted key goes through a value that is no table. -/
  | dottedThroughValue
  | bareWord
  /-- A field is given twice. -/
  | duplicateField (name : String)
  /-- A value has another type than the one expected. -/
  | wrongType (found expected : String)
  /-- A value has the right type but cannot be meant. -/
  | wrongValue (found expected : String)
  /-- The bytes are no text. -/
  | notText (reason : String)
deriving DecidableEq

/-- The cause in words. -/
def Cause.message : Cause → String
  | unexpectedEnd => "unexpected eof encountered"
  | badCharacterInString c => "invalid character in string: `" ++ escaped c ++ "`"
  | badEscape c => "invalid escape character in string: `" ++ escaped c ++ "`"
  | badHexEscape c => "invalid hex escape character in string: `" ++ escaped c ++ "`"
  | badEscapeValue value => "invalid escape value: `" ++ value.repr ++ "`"
  | newlineInString => "newline in string found"
  | unexpectedCharacter c => "unexpected character found: `" ++ escaped c ++ "`"
  | unterminatedString => "unterminated string"
  | wanted expected found => "expected " ++ expected ++ ", found " ++ found
  | badNumber => "invalid number"
  | badDate => "invalid date"
  | duplicateTable name => "redefinition of table `" ++ name ++ "`"
  | tableRedefinedAsArray => "table redefined as array"
  | multilineKey => "multiline strings are not allowed for key"
  | dottedThroughValue => "dotted key attempted to extend non-table type"
  | bareWord => "invalid TOML value, did you mean to use a quoted string?"
  | duplicateField name => "duplicate field `" ++ name ++ "`"
  | wrongType found expected => "invalid type: " ++ found ++ ", expected " ++ expected
  | wrongValue found expected => "invalid value: " ++ found ++ ", expected " ++ expected
  | notText reason => reason
where
  escaped (c : Char) : String := .ofList (Text.asciiEscape c)

/-- A place in a text, counted from zero. -/
structure Place where
  /-- The line. -/
  line : Nat
  /-- The byte within the line. -/
  column : Nat
deriving DecidableEq

/-- An error in a document. -/
structure Error where
  /-- What is wrong. -/
  cause : Cause
  /-- The keys that lead to the value in question, outermost first. -/
  keys : List String
  /-- Where it is. -/
  place : Option Place
deriving DecidableEq

namespace Error

/-- The words that name the keys of an error. -/
def keyText : List String → String
  | [] => ""
  | keys => " for key `" ++ ".".intercalate keys ++ "`"

/-- The words that name a place; lines and columns count from one. -/
def placeText : Option Place → String
  | none => ""
  | some place =>
    " at line " ++ (place.line + 1).repr ++ " column " ++ (place.column + 1).repr

/-- The error in words. -/
def message (error : Error) : String :=
  error.cause.message ++ keyText error.keys ++ placeText error.place

end Error

/-- A cause and the offset in bytes at which it is found. -/
structure Fault where
  /-- The offset. -/
  offset : Nat
  /-- What is wrong there. -/
  cause : Cause
deriving DecidableEq

end HeaderScan.Toml
