import HeaderScan.Config.Basic
import HeaderScan.Files.Directory
import HeaderScan.Toml.Outline

/-!
# Configuration files

A configuration file is a TOML document. Each setting may be given once, and must
have its type; keys that are no settings are passed over, but the document has to
be well formed in any case.
-/

namespace HeaderScan

/-- Why a configuration file cannot be used. -/
inductive ConfigError where
  /-- It is there, but cannot be read. -/
  | unreadable (cause : FileError)
  /-- It does not hold a configuration. -/
  | malformed (error : Toml.Error)

/-- The reason in words. -/
def ConfigError.message : ConfigError → String
  | unreadable cause => cause.message
  | malformed error => error.message

namespace Config

/-- Why a value does not do for a setting, and where, if the value has a place. -/
structure Mismatch where
  /-- What is wrong. -/
  cause : Toml.Cause
  /-- The offset of the value. -/
  offset : Option Nat

/-- What stands under a key. -/
inductive Content where
  /-- A value. -/
  | value (value : Toml.Value)
  /-- Sections: one table, or an array of them. -/
  | group (isArray : Bool)

namespace Content

/-- How errors call a value. -/
def describeValue : Toml.Value → String
  | .string _ text => "string " ++ Text.quote text
  | .integer _ n => "integer `" ++ toString n ++ "`"
  | .floating _ x => "floating point `" ++ x.text ++ "`"
  | .boolean _ b => "boolean `" ++ toString b ++ "`"
  | .array _ _ => "sequence"
  | .moment _ | .table _ _ _ => "map"

/-- The offset at which an error about a value is reported; arrays have none. -/
def reportedOffset : Toml.Value → Option Nat
  | .array _ _ => none
  | other => some other.offset

/-- The mismatch of a value of another type. -/
def wrongValueType (expected : String) (found : Toml.Value) : Mismatch :=
  ⟨.wrongType (describeValue found) expected, reportedOffset found⟩

/-- The mismatch of content of another type. -/
def wrongType (expected : String) : Content → Mismatch
  | .value found => wrongValueType expected found
  | .group isArray => ⟨.wrongType (if isArray then "sequence" else "map") expected, none⟩

/-- Read a truth value. -/
def boolean : Content → Except Mismatch Bool
  | .value (.boolean _ b) => .ok b
  | content => .error (content.wrongType "a boolean")

/-- Read a count; errors call it by its type. -/
def count (expected : String) : Content → Except Mismatch Nat
  | .value (.integer _ (.ofNat n)) => .ok n
  | .value (.integer offset n) =>
    .error ⟨.wrongValue ("integer `" ++ toString n ++ "`") expected, some offset⟩
  | content => .error (content.wrongType expected)

/-- Read a text. -/
def text (expected : String) : Content → Except Mismatch String
  | .value (.string _ given) => .ok given
  | content => .error (content.wrongType expected)

/-- Read a list of texts. -/
def texts : Content → Except Mismatch (List String)
  | .value (.array _ items) => items.mapM fun item => text "a string" (.value item)
  | .group true => .error (wrongType "a string" (.group false))
  | content => .error (content.wrongType "a sequence")

end Content

/-- A configuration that is being read: what has not been met is absent. -/
structure Draft where
  verbose : Option Bool
  workers : Option Nat
  threads : Option Nat
  header : Option String
  hostsFile : Option FilePath
  hosts : Option (List String)
  userAgent : Option String
  requestHeaders : Option (List String)
  timeout : Option Nat

namespace Draft

/-- Nothing has been met. -/
def empty : Draft := ⟨none, none, none, none, none, none, none, none, none⟩

/-- The configuration with defaults for what was not met. -/
def complete (draft : Draft) : Config where
  verbose := draft.verbose.getD standard.verbose
  workers := draft.workers.getD standard.workers
  threads := draft.threads
  header := draft.header.getD standard.header
  hostsFile := draft.hostsFile
  hosts := draft.hosts.getD standard.hosts
  userAgent := draft.userAgent.getD standard.userAgent
  requestHeaders := draft.requestHeaders.getD standard.requestHeaders
  timeout := draft.timeout

/-- What is wrong with an entry, and whether its key is told. -/
structure Objection where
  /-- The mismatch. -/
  mismatch : Mismatch
  /-- The keys that lead to it. -/
  keys : List String

/-- Read the content of a setting that has not been met before. -/
def once {α : Type} (met : Option α) (key : String) (read : Content → Except Mismatch α)
    (content : Content) : Except Objection (Option α) :=
  if met.isSome then .error ⟨⟨.duplicateField key, none⟩, []⟩
  else
    match read content with
    | .ok value => .ok (some value)
    | .error mismatch => .error ⟨mismatch, [key]⟩

/-- Meet an entry. -/
def meet (draft : Draft) (key : String) (content : Content) : Except Objection Draft :=
  match key with
  | "verbose" => do
    let verbose ← once draft.verbose key Content.boolean content
    return { draft with verbose }
  | "workers" => do
    let workers ← once draft.workers key (Content.count "usize") content
    return { draft with workers }
  | "threads" => do
    let threads ← once draft.threads key (Content.count "usize") content
    return { draft with threads }
  | "header" => do
    let header ← once draft.header key (Content.text "a string") content
    return { draft with header }
  | "hosts_file" => do
    let path (content : Content) := (content.text "path string").map FilePath.ofText
    let hostsFile ← once draft.hostsFile key path content
    return { draft with hostsFile }
  | "hosts" => do
    let hosts ← once draft.hosts key Content.texts content
    return { draft with hosts }
  | "user_agent" => do
    let userAgent ← once draft.userAgent key (Content.text "a string") content
    return { draft with userAgent }
  | "request_headers" => do
    let requestHeaders ← once draft.requestHeaders key Content.texts content
    return { draft with requestHeaders }
  | "timeout" => do
    let timeout ← once draft.timeout key (Content.count "u64") content
    return { draft with timeout }
  | _ => return draft

/-- Meet the entries of an outline in order. -/
def meetAll (draft : Draft) : List Toml.Event → Except Objection Draft
  | [] => .ok draft
  | .value key value :: rest => do (← draft.meet key (.value value)).meetAll rest
  | .group key isArray :: rest => do (← draft.meet key (.group isArray)).meetAll rest
  | .misfit fault keys :: _ => .error ⟨⟨fault.cause, some fault.offset⟩, keys⟩

end Draft

/-- Read a document that is text. -/
def ofText (text : String) : Except Toml.Error Config :=
  match Toml.readSections text with
  | .error fault => .error ⟨fault.cause, [], some (Toml.placeOf text fault.offset)⟩
  | .ok sections =>
    match Draft.empty.meetAll (Toml.outline sections) with
    | .ok draft => .ok draft.complete
    | .error ⟨mismatch, keys⟩ =>
      let offset := mismatch.offset.or (sections.getLast?.map Toml.Section.offset)
      .error ⟨mismatch.cause, keys, offset.map (Toml.placeOf text)⟩

/-- Read a configuration file. -/
def ofBytes (bytes : List UInt8) : Except Toml.Error Config :=
  match Text.decodeUtf8 bytes with
  | .ok text => ofText text
  | .error error => .error ⟨.notText error.message, [], none⟩

/-- Load the configuration file with this name, if there is one. -/
def load (read : FilePath → Except FileError (List UInt8)) (name : String) :
    Except ConfigError (Option Config) :=
  match read (.ofText name) with
  | .ok content => (ofBytes content).map some |>.mapError .malformed
  | .error .notFound => .ok none
  | .error cause => .error (.unreadable cause)

end Config

end HeaderScan
