/-!
# Schemes of URLs

The scheme is what stands before the first colon. Some schemes are special: their
URLs always have a host, or name files.
-/

namespace HeaderScan.Url

/-- What the scheme says about the rest of the URL. -/
inductive SchemeKind where
  /-- Files, on this host or another. -/
  | file
  /-- A host follows. -/
  | special
  /-- Anything may follow. -/
  | other
deriving DecidableEq

/-- The port of a scheme where none is given. -/
def defaultPort? : String → Option Nat
  | "http" | "ws" => some 80
  | "https" | "wss" => some 443
  | "ftp" => some 21
  | _ => none

/-- The kind of a scheme. -/
def SchemeKind.ofName (name : String) : SchemeKind :=
  if name = "file" then .file else if (defaultPort? name).isSome then .special else .other

/-- The scheme is special. -/
def SchemeKind.isSpecial (kind : SchemeKind) : Bool := kind ≠ .other

/-- The character may occur in a scheme. -/
def isSchemeChar (c : Char) : Bool := c.isAlphanum || c = '+' || c = '-' || c = '.'

/-- The scheme at the start of a text, in small letters, and what follows the colon. -/
def splitScheme? (chars : List Char) : Option (String × List Char) :=
  match chars.head?, chars.dropWhile isSchemeChar with
  | some first, ':' :: rest =>
    if first.isAlpha then some ((String.ofList (chars.takeWhile isSchemeChar)).toLower, rest)
    else none
  | _, _ => none

end HeaderScan.Url
