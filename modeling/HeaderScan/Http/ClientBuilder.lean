import HeaderScan.Duration
import HeaderScan.ScanError
import HeaderScan.Http.Field
import HeaderScan.Text.Blank

/-!
# Clients and their settings

A client looks for one field in the responses to its requests. Its builder keeps
the last value of each setting and uses a default for what was never set.
-/

namespace HeaderScan.Http

/-- The field that is looked for when none is configured. -/
def defaultHeader : String := "x-forwarded-for"

/-- The user agent when none is configured. -/
def defaultUserAgent : String := "hdrscan/0.1.0"

/-- The name of the field that carries the user agent. -/
def userAgentName : FieldName := ⟨"user-agent"⟩

/-- What a client looks for and how it makes its requests. -/
structure Client where
  /-- The field to look for. -/
  header : FieldName
  /-- The fields of every request. -/
  requestFields : FieldMap
  /-- How long a request may take. -/
  timeout : Option Duration

/-- The settings for clients; what was never set is absent. -/
structure ClientBuilder where
  /-- The name of the field to look for. -/
  header : Option String
  /-- The user agent. -/
  userAgent : Option String
  /-- How long a request may take. -/
  timeout : Option Duration
  /-- Further fields of every request. -/
  customFields : Option FieldMap

namespace ClientBuilder

/-- A builder with nothing set. -/
def new : ClientBuilder := ⟨none, none, none, none⟩

/-- Look for the field with this name. -/
def setHeader (builder : ClientBuilder) (name : String) : ClientBuilder :=
  { builder with header := some name }

/-- Use this user agent. -/
def setUserAgent (builder : ClientBuilder) (agent : String) : ClientBuilder :=
  { builder with userAgent := some agent }

/-- Let requests take no longer than this, or as long as they like. -/
def setTimeout (builder : ClientBuilder) (timeout : Option Duration) : ClientBuilder :=
  { builder with timeout := timeout }

/-- Send these fields with every request. -/
def setCustomFields (builder : ClientBuilder) (fields : FieldMap) : ClientBuilder :=
  { builder with customFields := some fields }

/-- The field name that a text spells between blanks; the error shows the text as given. -/
def canonicalName (name : String) : Except ScanError FieldName :=
  match FieldName.ofText? (Text.trim name) with
  | some field => .ok field
  | none => .error (.invalidHeaderName name)

/-- The fields of every request: the user agent and the custom fields, which win. -/
def requestFields (agent : FieldValue) (custom : Option FieldMap) : FieldMap :=
  (FieldMap.empty.insert userAgentName agent).extend (custom.getD .empty)

/-- A client with the current settings. -/
def build (builder : ClientBuilder) : Except ScanError Client := do
  let header ← canonicalName (builder.header.getD defaultHeader)
  let some agent := FieldValue.ofText? (builder.userAgent.getD defaultUserAgent)
    | throw .invalidHeaderValue
  return ⟨header, requestFields agent builder.customFields, builder.timeout⟩

end ClientBuilder

end HeaderScan.Http
