import HeaderScan.Domain.Name
import HeaderScan.Url.Ipv6
import HeaderScan.Url.ParseError
import HeaderScan.Url.Percent

/-!
# Addresses in URLs

The host of a URL is a domain name or an address. Where the scheme does not say that
it is one, the name is kept as it is.
-/

namespace HeaderScan.Url

/-- The host of a URL. -/
inductive Address where
  /-- A name, as it is written in the URL. -/
  | domain (name : String)
  /-- An address of four bytes. -/
  | ipv4 (address : Nat)
  /-- An address of eight pieces. -/
  | ipv6 (pieces : List Nat)
deriving DecidableEq

namespace Address

/-- The address as it is written in the URL. -/
def text : Address → String
  | domain name => name
  | ipv4 address => Ipv4.text address
  | ipv6 pieces => "[" ++ Ipv6.text pieces ++ "]"

/-- The address in brackets that a text spells. -/
def ofBracketed (chars : List Char) : Except ParseError Address :=
  match chars.getLast?, Ipv6.ofText? (chars.drop 1).dropLast with
  | some ']', some pieces => .ok (.ipv6 pieces)
  | _, _ => .error .badIPv6

/-- The ASCII form of a name, some characters of which may be percent-encoded. -/
def asciiName (chars : List Char) : Except ParseError (List Char) :=
  match Text.decodeUtf8 (percentDecode (Text.encodeUtf8 (.ofList chars))) with
  | .error _ => .error .badInternationalName
  | .ok name =>
    match Domain.ascii? name.toList with
    | some ascii => .ok ascii
    | none => .error .badInternationalName

/-- The address that a text spells where the scheme has domain names. -/
def ofText (chars : List Char) : Except ParseError Address := do
  if chars.head? = some '[' then ofBracketed chars
  else
    let name ← asciiName chars
    if name = [] then throw .emptyHost
    else if Ipv4.endsInNumber name then
      match Ipv4.ofName? name with
      | some address => return .ipv4 address
      | none => throw .badIPv4
    else return .domain (.ofList name)

/-- The characters that no name has where the scheme does not have domain names. -/
def isForbidden (c : Char) : Bool :=
  "\x00\t\n\r #/:<>?@[\\]^|".toList.contains c

/-- The address that a text spells where the scheme does not have domain names. -/
def ofOther (chars : List Char) : Except ParseError Address :=
  if chars.head? = some '[' then ofBracketed chars
  else if chars.any isForbidden then .error .badDomainCharacter
  else .ok (.domain (.ofList (percentEncode isControl chars)))

end Address

end HeaderScan.Url
