import HeaderScan.Host
import HeaderScan.Url.Basic
import HeaderScan.Url.Path

/-!
# Reading URLs

Controls and spaces around a URL are left out, as are tabs and line ends within it.
A text is a URL if it begins with a scheme; what follows is read as the scheme
demands. There is no URL that another could be relative to.
-/

namespace HeaderScan

namespace Url

/-- The character does not count at either end. -/
def isPadding (c : Char) : Bool := c.toNat ≤ 0x20

/-- The character does not count anywhere. -/
def isSkipped (c : Char) : Bool := c = '\t' || c = '\n' || c = '\r'

/-- The characters that count. -/
def significant (chars : List Char) : List Char :=
  let trimmed := ((chars.dropWhile isPadding).reverse.dropWhile isPadding).reverse
  trimmed.filter (!isSkipped ·)

/-- What follows the scheme, in parts. -/
structure Remainder where
  /-- The authority and the path. -/
  body : List Char
  /-- What follows a question mark. -/
  query : Option (List Char)
  /-- What follows a hash. -/
  fragment : Option (List Char)

/-- Divide a text at the first such character, which is left out. -/
def cutAt (mark : Char) (chars : List Char) : List Char × Option (List Char) :=
  match chars.dropWhile (· ≠ mark) with
  | [] => (chars, none)
  | _ :: rest => (chars.takeWhile (· ≠ mark), some rest)

namespace Remainder

/-- The parts of what follows the scheme. -/
def ofText (chars : List Char) : Remainder :=
  let (front, fragment) := cutAt '#' chars
  let (body, query) := cutAt '?' front
  ⟨body, query, fragment⟩

/-- The URL with this remainder, of which scheme, authority and path are known. -/
def complete (remainder : Remainder) (scheme : String) (authority : Option Authority)
    (path : List Char) : Url where
  scheme
  authority
  path := .ofList path
  query := remainder.query.map fun query =>
    .ofList (percentEncode (isQueryEscape (SchemeKind.ofName scheme).isSpecial) query)
  fragment := remainder.fragment.map fun fragment =>
    .ofList (percentEncode isFragmentEscape fragment)

end Remainder

/-- The user name and password before the last at sign, if there is one, and the rest. -/
def splitUser (chars : List Char) : Option (List Char) × List Char :=
  match (chars.reverse.dropWhile (· ≠ '@')).reverse with
  | [] => (none, chars)
  | upTo => (some upTo.dropLast, chars.drop upTo.length)

/-- How many characters stand before the first colon outside of brackets. -/
def hostLength (inBrackets : Bool) : List Char → Nat
  | [] => 0
  | ':' :: rest => if inBrackets then hostLength true rest + 1 else 0
  | c :: rest => hostLength (c = '[' || (inBrackets && c ≠ ']')) rest + 1

/-- Append a digit to a port. -/
def appendDigit (port : Nat) (digit : Char) : Except ParseError Nat :=
  let grown := port * 10 + (digit.toNat - '0'.toNat)
  if grown < 0x10000 then .ok grown else .error .badPort

/-- The port after a host, and what follows it: nothing, or a backslash. -/
def readPort (scheme : String) : List Char → Except ParseError (Option Nat × List Char)
  | ':' :: rest => do
    let digits := rest.takeWhile Char.isDigit
    let port ← digits.foldlM appendDigit 0
    let after := rest.drop digits.length
    if after ≠ [] && after.head? ≠ some '\\' then throw .badPort
    else if digits = [] || some port = defaultPort? scheme then return (none, after)
    else return (some port, after)
  | after => .ok (none, after)

/-- The user name and the password. -/
def readUser (chars : List Char) : String × Option String :=
  let encode (part : List Char) := String.ofList (percentEncode isUserEscape part)
  match cutAt ':' chars with
  | (name, none) | (name, some []) => (encode name, none)
  | (name, some password) => (encode name, some (encode password))

/-- The host, for which a special scheme needs a name. -/
def readHost (kind : SchemeKind) (chars : List Char) : Except ParseError (Option Address) :=
  match kind, chars with
  | .other, [] => .ok none
  | .other, _ => some <$> Address.ofOther chars
  | _, [] => .error .emptyHost
  | _, _ => some <$> Address.ofText chars

/-- Read an authority; `isLast` if the URL ends with it. What follows the port and is
no part of the authority is returned, too. -/
def readAuthority (scheme : String) (isLast : Bool) (chars : List Char) :
    Except ParseError (Authority × List Char) := do
  let (user, place) := splitUser chars
  if user = some [] && place = [] && !isLast then throw .emptyHost
  let (username, password) := readUser (user.getD [])
  let length := hostLength false place
  let host ← readHost (SchemeKind.ofName scheme) (place.take length)
  if host = none && length < place.length then throw .emptyHost
  let (port, rest) ← readPort scheme (place.drop length)
  let authority : Authority := ⟨username, password, host, port⟩
  if host = none && authority.user ≠ "" then throw .emptyHost
  return (authority, rest)

/-- Read what follows the two slashes of a URL that names no file. -/
def readHierarchy (scheme : String) (remainder : Remainder) (body : List Char) :
    Except ParseError Url := do
  let isSpecial := (SchemeKind.ofName scheme).isSpecial
  let place := body.takeWhile (!isDivider isSpecial ·)
  let after := body.drop place.length
  let isLast := after = [] && remainder.query.isNone && remainder.fragment.isNone
  let (authority, rest) ← readAuthority scheme isLast place
  match rest ++ after with
  | [] =>
    return remainder.complete scheme (some authority) (if isSpecial then ['/'] else [])
  | c :: path =>
    let path := if isDivider isSpecial c then path else c :: path
    return remainder.complete scheme (some authority) (routeOf isSpecial false path).text

/-- The path of a file has one slash at its start. -/
def withOneSlash (path : List Char) : List Char := '/' :: path.dropWhile (· = '/')

/-- The host of a file, if it is on another one; a drive is none. The path follows. -/
def readFileHost (chars : List Char) : Except ParseError (Option Address × List Char) := do
  let name := chars.takeWhile (!isDivider true ·)
  if name = [] || isDrive name then return (none, chars)
  else
    let host ← Address.ofText name
    let path := chars.drop name.length
    if host = .domain "localhost" then return (none, path) else return (some host, path.drop 1)

/-- Read the rest of a URL that names a file. -/
def readFile (remainder : Remainder) : Except ParseError Url := do
  let complete (host : Option Address) (path : List Char) : Url :=
    let route := routeOf true true path
    let host := if route.hasDrive then none else host
    remainder.complete "file" (some { Authority.empty with host }) (withOneSlash route.text)
  match remainder.body with
  | a :: b :: rest =>
    if isDivider true a && isDivider true b then
      let (host, path) ← readFileHost rest
      return complete host path
    else if isDivider true a then return complete none (b :: rest)
    else return complete none (a :: b :: rest)
  | [a] => return complete none (if isDivider true a then [] else [a])
  | [] => return complete none []

/-- Read the rest of a URL that need not have an authority. -/
def readOther (scheme : String) (remainder : Remainder) : Except ParseError Url :=
  match remainder.body with
  | '/' :: '/' :: rest => readHierarchy scheme remainder rest
  | '/' :: path => .ok (remainder.complete scheme none (routeOf false false path).text)
  | path => .ok (remainder.complete scheme none (percentEncode isControl path))

/-- The URL that a text spells. -/
def parse (text : String) : Except ParseError Url :=
  match splitScheme? (significant text.toList) with
  | none => .error .relativeWithoutBase
  | some (scheme, rest) =>
    let remainder := Remainder.ofText rest
    match SchemeKind.ofName scheme with
    | .file => readFile remainder
    | .special => readHierarchy scheme remainder (remainder.body.dropWhile (isDivider true))
    | .other => readOther scheme remainder

end Url

/-- The host read as a URL. -/
def Host.url (host : Host) : Except Url.ParseError Url := Url.parse host.text

end HeaderScan
