import HeaderScan.Url.Address
import HeaderScan.Url.Scheme

/-!
# URLs

A URL has a scheme and a path, and may have an authority, a query and a fragment.
All parts are kept as they are written in the URL.
-/

namespace HeaderScan

namespace Url

/-- Who is to be reached, and where. -/
structure Authority where
  /-- The user name, or nothing. -/
  username : String
  /-- The password. -/
  password : Option String
  /-- The host. -/
  host : Option Address
  /-- The port, where it is not that of the scheme. -/
  port : Option Nat
deriving DecidableEq

namespace Authority

/-- The authority without host, port and user. -/
def empty : Authority := ⟨"", none, none, none⟩

/-- The user name and the password as they stand before the host. -/
def user (authority : Authority) : String :=
  let password := authority.password.elim "" (":" ++ ·)
  if authority.username = "" && password = "" then "" else authority.username ++ password ++ "@"

/-- The authority as text. -/
def text (authority : Authority) : String :=
  authority.user ++ authority.host.elim "" Address.text ++
    authority.port.elim "" (":" ++ Nat.repr ·)

end Authority

end Url

/-- A URL. -/
structure Url where
  /-- The scheme. -/
  scheme : String
  /-- The authority, which two slashes announce. -/
  authority : Option Url.Authority
  /-- The path. -/
  path : String
  /-- What follows a question mark. -/
  query : Option String
  /-- What follows a hash. -/
  fragment : Option String
deriving DecidableEq

namespace Url

/-- What stands between the scheme and the path. Where a path begins with two slashes,
it must not be taken for an authority. -/
def beforePath (url : Url) : String :=
  match url.authority with
  | some authority => "//" ++ authority.text
  | none => if url.path.startsWith "//" then "/." else ""

/-- The URL as text. -/
def text (url : Url) : String :=
  url.scheme ++ ":" ++ url.beforePath ++ url.path ++
    url.query.elim "" ("?" ++ ·) ++ url.fragment.elim "" ("#" ++ ·)

/-- The host of the URL. -/
def host (url : Url) : Option Address := url.authority.bind Authority.host

/-- The port of the URL, where it is not that of the scheme. -/
def port (url : Url) : Option Nat := url.authority.bind Authority.port

/-- The user name in the URL, or nothing. -/
def username (url : Url) : String := url.authority.elim "" Authority.username

/-- The password in the URL. -/
def password (url : Url) : Option String := url.authority.bind Authority.password

end Url

end HeaderScan
