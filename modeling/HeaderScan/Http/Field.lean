import HeaderScan.Text.Utf8

/-!
# Fields of a message head

A field has a name, which is compared without regard to case and kept in lower
case, and a value of visible bytes. A field map holds one value for each name.
-/

namespace HeaderScan.Http

/-- The name of a field in its canonical, lower-case form. -/
structure FieldName where
  /-- The name. -/
  text : String
deriving DecidableEq

namespace FieldName

/-- The characters of which a name is made. -/
def isNameChar (c : Char) : Bool :=
  c.isAlphanum || "!\"#$%&'*+-.^_`|~".toList.contains c

/-- The longest name there is. -/
def maxLength : Nat := 65535

/-- Some characters spell a name. -/
def isName (chars : List Char) : Bool :=
  !chars.isEmpty && chars.length ≤ maxLength && chars.all isNameChar

/-- The name that a text spells, in any letter case. -/
def ofText? (text : String) : Option FieldName :=
  if isName text.toList then some ⟨text.map Char.toLower⟩ else none

/-- The name with a backslash before each quotation mark, the only character of
a name that a quoted form has to escape. -/
def escaped (name : FieldName) : String :=
  .ofList (name.text.toList.flatMap fun c => if c = '"' then ['\\', '"'] else [c])

end FieldName

/-- The value of a field. -/
structure FieldValue where
  /-- The bytes of the value. -/
  bytes : List UInt8
deriving DecidableEq

namespace FieldValue

/-- The byte may stand in a value: it is no control character but a tab. -/
def isValueByte (b : UInt8) : Bool := (0x20 ≤ b && b != 0x7F) || b == 0x09

/-- The value with these bytes, if they may all stand in one. -/
def ofBytes? (bytes : List UInt8) : Option FieldValue :=
  if bytes.all isValueByte then some ⟨bytes⟩ else none

/-- The value with this text. -/
def ofText? (text : String) : Option FieldValue := ofBytes? (Text.encodeUtf8 text)

/-- The value as text, with replacement characters for what is not UTF-8. -/
def text (value : FieldValue) : String := Text.decodeUtf8Lossy value.bytes

end FieldValue

/-- Field values by name, ordered by name. -/
structure FieldMap where
  /-- The fields, with increasing names. -/
  entries : List (FieldName × FieldValue)
deriving DecidableEq

namespace FieldMap

/-- The map without fields. -/
def empty : FieldMap := ⟨[]⟩

/-- Ordered insertion, which overwrites the value of a name that is there. -/
def insertEntry (name : FieldName) (value : FieldValue) :
    List (FieldName × FieldValue) → List (FieldName × FieldValue)
  | [] => [(name, value)]
  | (other, previous) :: rest =>
    if name = other then (name, value) :: rest
    else if name.text < other.text then (name, value) :: (other, previous) :: rest
    else (other, previous) :: insertEntry name value rest

/-- The map in which the name has this value. -/
def insert (map : FieldMap) (name : FieldName) (value : FieldValue) : FieldMap :=
  ⟨insertEntry name value map.entries⟩

/-- The first map with all fields of the second, which win. -/
def extend (map other : FieldMap) : FieldMap :=
  other.entries.foldl (fun map entry => map.insert entry.1 entry.2) map

end FieldMap

end HeaderScan.Http
