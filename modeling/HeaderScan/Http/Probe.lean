import HeaderScan.Http.Request
import HeaderScan.Response

/-!
# Probing a host

A client requests the host and looks into the head of the response. Only the first
field with the name that it looks for counts, and an empty value is the same as no
field.
-/

namespace HeaderScan

namespace Http

/-- The head of a response. -/
structure Head where
  /-- The status code. -/
  code : StatusCode
  /-- The fields in order, with the names as they were sent. -/
  fields : List (String × FieldValue)

namespace Head

/-- The first value of a field; its name may be in any letter case. -/
def get? (head : Head) (name : FieldName) : Option FieldValue :=
  (head.fields.find? fun field => field.1.map Char.toLower == name.text).map Prod.snd

end Head

/-- The servers that can be reached, and how they answer. -/
structure Network where
  /-- The head of the final response to a request, or what went wrong. -/
  answer : Request → Except RequestError Head
  /-- How many milliseconds this takes. -/
  latency : Request → Nat

/-- A network that no machine is connected to. -/
def Network.absent : Network where
  answer request := .error (.sending request.url.text .networkUnreachable)
  latency _ := 0

/-- What a response says about the field with a name. -/
def Head.status (head : Head) (name : FieldName) : Status :=
  match head.get? name with
  | some value => if value.bytes = [] then .missing head.code else .found value.text
  | none => .missing head.code

/-- What a failed request says about a host. -/
def RequestError.status (error : RequestError) : Status :=
  if error.isTimeout then .timeout else .error error.message

end Http

open Http

/-- Why a host cannot be requested at all. -/
def Host.notUrlMessage (host : Host) (cause : Url.ParseError) : String :=
  "Cannot parse " ++ host.text ++ " as URL: " ++ cause.message

namespace Http.Client

/-- Probe a host. -/
def check (network : Network) (client : Client) (host : Host) : Status :=
  match host.url with
  | .error cause => .error (host.notUrlMessage cause)
  | .ok url =>
    match Request.ofUrl client url >>= network.answer with
    | .ok head => head.status client.header
    | .error error => error.status

/-- How many milliseconds the probe of a host takes. -/
def delay (network : Network) (client : Client) (host : Host) : Nat :=
  match host.url with
  | .error _ => 0
  | .ok url => ((Request.ofUrl client url).map network.latency).toOption.getD 0

end Http.Client

end HeaderScan
