import HeaderScan.Url.Percent

/-!
# Paths of URLs

A path is a row of segments, each after a slash. A single dot stays where it is, two
dots go back by a segment, but not past the letter of a drive. In URLs of files the
letter of a drive at the start is followed by a colon and a slash.
-/

namespace HeaderScan.Url

/-- The segment stays where it is. -/
def isSingleDot (segment : List Char) : Bool :=
  [".", "%2e"].contains (String.ofList segment).toLower

/-- The segment goes back by one. -/
def isDoubleDot (segment : List Char) : Bool :=
  ["..", ".%2e", "%2e.", "%2e%2e"].contains (String.ofList segment).toLower

/-- The segment is the letter of a drive. -/
def isDrive : List Char → Bool
  | [letter, mark] => letter.isAlpha && (mark = ':' || mark = '|')
  | _ => false

/-- The segments of a path that have been followed. -/
structure Route where
  /-- The segments, the last one first. -/
  segments : List (List Char)
  /-- The path begins with the letter of a drive, given as a segment. -/
  hasDrive : Bool

namespace Route

/-- The start of every path. -/
def root : Route := ⟨[], false⟩

/-- Go back by a segment. -/
def back (route : Route) : Route :=
  match route.segments with
  | last :: rest => if isDrive last then route else { route with segments := rest }
  | [] => route

/-- Append a segment that is not a dot. -/
def push (isFile : Bool) (route : Route) (segment : List Char) : Route :=
  if isFile && route.segments = [] && isDrive segment then ⟨[segment.take 1 ++ [':']], true⟩
  else { route with segments := segment :: route.segments }

/-- The letter of a drive and a colon begin a path of a file, and more follows in the
same segment. -/
def startsWithDrive (isFile : Bool) (route : Route) : List Char → Bool
  | letter :: ':' :: _ :: _ => isFile && route.segments = [] && letter.isAlpha
  | _ => false

/-- Follow a segment after which there is a slash. -/
def follow (isFile : Bool) (route : Route) (segment : List Char) : Route :=
  if route.startsWithDrive isFile segment then
    { route with segments := [segment.drop 2, segment.take 2] }
  else if isDoubleDot segment then route.back
  else if isSingleDot segment then route
  else route.push isFile segment

/-- Follow the last segment; after dots the path ends with a slash. -/
def finish (isFile : Bool) (route : Route) (segment : List Char) : Route :=
  let next := route.follow isFile segment
  if !route.startsWithDrive isFile segment && (isDoubleDot segment || isSingleDot segment) then
    { next with segments := [] :: next.segments }
  else next

/-- Follow all segments. -/
def followAll (isFile : Bool) (route : Route) : List (List Char) → Route
  | [] => route
  | [last] => route.finish isFile last
  | segment :: rest => (route.follow isFile segment).followAll isFile rest

/-- The path as text. -/
def text (route : Route) : List Char := route.segments.reverse.flatMap ('/' :: ·)

end Route

/-- The character divides segments. -/
def isDivider (isSpecial : Bool) (c : Char) : Bool := c = '/' || (isSpecial && c = '\\')

/-- The route that a text describes. -/
def routeOf (isSpecial isFile : Bool) (chars : List Char) : Route :=
  let segments := chars.splitOnP (isDivider isSpecial)
  Route.root.followAll isFile (segments.map (percentEncode isPathEscape))

end HeaderScan.Url
