import HeaderScan.Http.Field

/-!
# Request fields as they are configured

A request field is configured as one line `name=value` with exactly one equals
sign. Of several lines for one name the last one counts.
-/

namespace HeaderScan.Http

/-- Why a line is no request field. -/
inductive FieldLineError where
  /-- The line has no equals sign, or more than one. -/
  | notKeyValue (line : String)
  /-- What stands before the equals sign is no field name. -/
  | badName
  /-- What stands after the equals sign is no field value. -/
  | badValue
deriving DecidableEq

/-- The reason in words. -/
def FieldLineError.message : FieldLineError → String
  | notKeyValue line => "Header value should be of the form key=value, got " ++ line
  | badName => "invalid HTTP header name"
  | badValue => "failed to parse header value"

namespace FieldLine

/-- The parts of a text between its equals signs. -/
def splitAtEquals : List Char → List (List Char)
  | [] => [[]]
  | c :: rest =>
    if c = '=' then [] :: splitAtEquals rest
    else
      match splitAtEquals rest with
      | first :: others => (c :: first) :: others
      | [] => [[c]]

/-- The texts before and after the only equals sign of a line. -/
def read (line : String) : Except FieldLineError (String × String) :=
  match splitAtEquals line.toList with
  | [name, value] => .ok (.ofList name, .ofList value)
  | _ => .error (.notKeyValue line)

/-- The field that a line configures. -/
def parse (line : String) : Except FieldLineError (FieldName × FieldValue) := do
  let (name, value) ← read line
  let some name := FieldName.ofText? name | throw .badName
  let some value := FieldValue.ofText? value | throw .badValue
  return (name, value)

/-- Add the field of each line to a map, in order. -/
def addAll (map : FieldMap) : List String → Except FieldLineError FieldMap
  | [] => .ok map
  | line :: rest => do
    let (name, value) ← parse line
    addAll (map.insert name value) rest

/-- The fields that some lines configure. -/
def parseAll (lines : List String) : Except FieldLineError FieldMap := addAll .empty lines

end FieldLine

end HeaderScan.Http
