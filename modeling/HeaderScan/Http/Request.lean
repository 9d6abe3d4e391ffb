import HeaderScan.Http.ClientBuilder
import HeaderScan.Url.Parser

/-!
# Requests

A client requests a URL of one of two schemes. A user name and password in it are
taken out of it and sent with the request.
-/

namespace HeaderScan.Http

/-- What a user shows to the server. -/
structure Credentials where
  /-- The name of the user. -/
  username : String
  /-- The password. -/
  password : Option String
deriving DecidableEq

namespace Credentials

/-- The text that percent-encoded text stands for. -/
def decodePart (part : String) : Except Text.Utf8Error String :=
  Text.decodeUtf8 (Url.percentDecode (Text.encodeUtf8 part))

/-- The credentials in a URL. There are none if the user name is not UTF-8; a password
that is not UTF-8 counts as absent. -/
def ofUrl? (url : Url) : Option Credentials := do
  let username ← (decodePart url.username).toOption
  let password := url.password.bind fun part => (decodePart part).toOption
  if username = "" && password.isNone then none else some ⟨username, password⟩

end Credentials

/-- The URL without user name and password. -/
def anonymous (url : Url) : Url :=
  { url with
    authority := url.authority.map fun authority =>
      { authority with username := "", password := none } }

/-- A request. -/
structure Request where
  /-- The URL, without credentials. -/
  url : Url
  /-- The credentials. -/
  credentials : Option Credentials
  /-- The fields of the request. -/
  fields : FieldMap
  /-- How long the request may take. -/
  timeout : Option Duration

namespace Request

/-- The schemes of URLs that are requested. -/
def schemes : List String := ["http", "https"]

/-- The request of a client for a URL. -/
def ofUrl (client : Client) (url : Url) : Except RequestError Request :=
  let credentials := Credentials.ofUrl? url
  let target := if credentials.isSome then anonymous url else url
  if schemes.contains target.scheme then
    .ok ⟨target, credentials, client.requestFields, client.timeout⟩
  else .error (.schemeNotAllowed target.text)

end Request

end HeaderScan.Http
