import HeaderScan.Toml.Number

/-!
# Sections

A document is a list of sections: the entries before the first header, and then
one section for each header, with the entries below it.
-/

namespace HeaderScan.Toml

/-- A part of a document with its header. -/
structure Section where
  /-- The offset of the header. -/
  offset : Nat
  /-- The keys of the header, outermost first; none before the first header. -/
  header : List String
  /-- The header stands in double brackets: each such section is an element. -/
  isElement : Bool
  /-- The entries below the header, in order. -/
  entries : Entries

/-- Reading moves a cursor through the text until a fault. -/
abbrev Reader := StateT Cursor (Except Fault)

namespace Reader

/-- The offset of what comes next. -/
def offset : Reader Nat := return (← get).offset

/-- Fail at an offset. -/
def failAt {α : Type} (offset : Nat) (cause : Cause) : Reader α := throw ⟨offset, cause⟩

/-- The next token, which is left where it is. -/
def peek : Reader (Option Lexeme) := do
  return (← Lex.next (← get).rest).map Prod.fst

/-- Take the next token; nothing at the end. -/
def next : Reader (Option Lexeme) := do
  match ← Lex.next (← get).rest with
  | none => return none
  | some (lexeme, rest) =>
    modify ({ · with rest })
    return some lexeme

/-- Take the next token if it is this one; whether it was. -/
def eat (token : Token) : Reader Bool := do
  if (← peek).any (·.token = token) then
    let _ ← next
    return true
  else return false

/-- What was found in place of a wanted token. -/
def wantedInstead {α : Type} (expected : String) (offset : Nat) : Option Lexeme → Reader α
  | some lexeme => failAt offset (.wanted expected lexeme.token.describe)
  | none => do failAt (← get).size (.wanted expected "eof")

/-- Take the next token, which must be this one. -/
def expect (token : Token) : Reader Unit := do
  let offset ← offset
  let found ← next
  if found.any (·.token = token) then return ()
  else wantedInstead token.describe offset found

/-- Take spaces and tabs. -/
def skipBlanks : Reader Unit :=
  modify fun cursor => { cursor with rest := cursor.rest.dropWhile (Lex.isSpace ·.char) }

/-- Take a line end, unless the text ends. -/
def endLine : Reader Unit := do
  let offset ← offset
  match ← next with
  | none | some ⟨_, .newline⟩ => return ()
  | found => wantedInstead "newline" offset found

/-- Take a comment with its line end; whether there was one. -/
def eatComment : Reader Bool := do
  let cursor ← get
  if (cursor.rest.head?.map Spot.char) = some '#' then
    set { cursor with rest := (cursor.rest.drop 1).dropWhile (Lex.isCommentChar ·.char) }
    endLine
    return true
  else return false

/-- Take what may follow at the end of a line: a comment, and the line end. -/
def finishLine : Reader Unit := do
  unless ← eatComment do endLine

/-- Take one part of a key. -/
def key : Reader String := do
  let offset ← offset
  match ← next with
  | some ⟨_, .word text⟩ => return text
  | some ⟨_, .string text false⟩ => return text
  | some ⟨start, .string _ true⟩ => failAt start .multilineKey
  | found => wantedInstead "a table key" offset found

/-- Take the parts of a key that follow a first one, within so many parts. -/
def moreKeys : Nat → Reader (List String)
  | 0 => return []
  | parts + 1 => do
    skipBlanks
    if ← eat .period then
      skipBlanks
      let part ← key
      return part :: (← moreKeys parts)
    else return []

/-- Take a dotted key: its first part and the others. -/
def dottedKey : Reader (String × List String) := do
  let first ← key
  return (first, ← moreKeys (← get).rest.length)

/-- Take a word, or fail here with this cause. -/
def word (offset : Nat) (cause : Cause) : Reader (Nat × String) := do
  match ← next with
  | some ⟨start, .word text⟩ => return (start, text)
  | _ => failAt offset cause

/-- Take the rest of a date or time that begins at `offset`; whether the colon after
the hour has been taken. Its parts are not checked any further. -/
def moment (offset : Nat) (hasColon : Bool) : Reader Value := do
  let part := word offset .badDate
  let cursor ← get
  if let .ok (some (⟨_, .whitespace 1⟩, rest)) := Lex.next cursor.rest then
    if (rest.head?.any (Lex.isWordChar ·.char)) && isSpaceNext cursor then
      let _ ← next
      let _ ← next
  let hasTime ← if hasColon then pure true else eat .colon
  if hasTime then
    let _ ← part
    expect .colon
    let _ ← part
    if ← eat .period then let _ ← part
    if ← eat .plus then let _ ← part
    if ← eat .colon then let _ ← part
  return .moment offset
where
  isSpaceNext (cursor : Cursor) : Bool := (cursor.rest.head?.map Spot.char) = some ' '

/-- Take the rest of a floating point number: its word at `offset` has been taken,
and of what is behind its point, too. -/
def floating (offset : Nat) (text : String) (fraction? : Option (Nat × String)) :
    Reader Floating := do
  let (whole, suffix) ← DigitRule.whole.split offset text.toList
  let (fraction, suffix) ← match fraction? with
    | none => pure ([], suffix)
    | some (start, text) =>
      if suffix.isEmpty then DigitRule.plain.split start text.toList
      else failAt offset .badNumber
  let (lastOffset, lastText) := fraction?.getD (offset, text)
  let stop := lastOffset + lastText.length
  let (exponent, suffix) ← match suffix with
    | [] => pure (['0'], [])
    | mark :: rest =>
      if mark ≠ 'e' ∧ mark ≠ 'E' then failAt offset .badNumber
      else if rest.isEmpty then do
        let _ ← eat .plus
        let (start, text) ← word offset .badNumber
        DigitRule.plain.split start text.toList
      else DigitRule.exponent.split (stop - rest.length) rest
  if suffix.isEmpty then floatOf offset whole fraction (signedValue exponent)
  else failAt offset .badNumber

/-- Take the rest of a number whose first word has been taken. -/
def number (offset wordOffset : Nat) (text : String) : Reader Value := do
  let chars := text.toList
  let marked (base : Nat) : Reader Value := do
    return .integer offset (← wholeNumber (.marked base) (wordOffset + 2) (chars.drop 2))
  match chars.take 2 with
  | ['0', 'x'] => marked 16
  | ['0', 'o'] => marked 8
  | ['0', 'b'] => marked 2
  | _ =>
    if chars.contains 'e' || chars.contains 'E' then
      return .floating offset (← floating wordOffset text none)
    else if ← eat .period then
      let (start, fraction) ← word (← Reader.offset) .badNumber
      return .floating start (← floating wordOffset text (some (start, fraction)))
    else
      match text with
      | "inf" => return .floating offset (.infinite false)
      | "-inf" => return .floating offset (.infinite true)
      | "nan" | "-nan" => return .floating offset .nan
      | _ => return .integer offset (← wholeNumber .whole wordOffset chars)

/-- The word begins a date rather than a number. -/
def isDate (chars : List Char) : Bool :=
  chars.contains 'T' || chars.contains 't' ||
    ((chars.drop 1).contains '-' && !hasSignedExponent chars)
where
  hasSignedExponent : List Char → Bool
    | a :: b :: rest => ((a = 'e' || a = 'E') && b = '-') || hasSignedExponent (b :: rest)
    | _ => false

/-- Take the rest of a value that begins with a word. -/
def wordValue (offset : Nat) (text : String) : Reader Value := do
  let chars := text.toList
  let looksNumeric := text = "inf" || text = "nan" ||
    chars.head?.any fun c => c = '-' || c.isDigit
  if text = "true" then return .boolean offset true
  else if text = "false" then return .boolean offset false
  else if !looksNumeric then failAt offset .bareWord
  else if isDate chars then moment offset false
  else if ← eat .colon then moment offset true
  else number offset offset text

/-- Take the blanks, line ends and comments between the items of an array. -/
def skipGaps : Nat → Reader Unit
  | 0 => return ()
  | gaps + 1 => do
    skipBlanks
    if ← eat .newline then skipGaps gaps
    else if ← eatComment then skipGaps gaps
    else return ()

/-- Take the gaps between the items of an array, however many there are. -/
def gaps : Reader Unit := do skipGaps ((← get).rest.length + 1)

mutual

/-- Take a value, within so many steps. -/
def value : Nat → Reader Value
  | 0 => do failAt (← get).size .unexpectedEnd
  | fuel + 1 => do
    let offset ← offset
    match ← next with
    | some ⟨start, .string text _⟩ => return .string start text
    | some ⟨start, .word text⟩ => wordValue start text
    | some ⟨start, .plus⟩ =>
      let (wordOffset, text) ← word (← Reader.offset) .badNumber
      number start wordOffset text
    | some ⟨start, .leftBrace⟩ =>
      skipBlanks
      if ← eat .rightBrace then return .table start false []
      else return .table start false (← inlineEntries fuel [])
    | some ⟨start, .leftBracket⟩ => return .array start (← items fuel)
    | some lexeme => failAt offset (.wanted "a value" lexeme.token.describe)
    | none => failAt (← get).size .unexpectedEnd

/-- Take the entries of a table in braces up to the closing one. -/
def inlineEntries (fuel : Nat) (entries : Entries) : Reader Entries := do
  match fuel with
  | 0 => failAt (← get).size .unexpectedEnd
  | fuel + 1 =>
    let (first, more) ← dottedKey
    skipBlanks
    expect .equals
    skipBlanks
    let entry ← value fuel
    let entries ← Entries.addDotted entries entry first more
    skipBlanks
    if ← eat .rightBrace then return entries
    else
      expect .comma
      skipBlanks
      inlineEntries fuel entries

/-- Take the items of an array up to the closing bracket. -/
def items (fuel : Nat) : Reader (List Value) := do
  match fuel with
  | 0 => failAt (← get).size .unexpectedEnd
  | fuel + 1 =>
    gaps
    if ← eat .rightBracket then return []
    else
      let item ← value fuel
      gaps
      if ← eat .comma then return item :: (← items fuel)
      else
        gaps
        expect .rightBracket
        return [item]

end

/-- Take an entry with its line end and add it to others. -/
def entry (entries : Entries) : Reader Entries := do
  let (first, more) ← dottedKey
  skipBlanks
  expect .equals
  skipBlanks
  let value ← value ((← get).rest.length + 1)
  skipBlanks
  finishLine
  Entries.addDotted entries value first more

/-- Take the keys of a header and its closing brackets, within so many keys. -/
def headerKeys (isElement : Bool) : Nat → Reader (List String)
  | 0 => return []
  | keys + 1 => do
    skipBlanks
    let part ← key
    skipBlanks
    if ← eat .period then
      return part :: (← headerKeys isElement keys)
    else
      expect .rightBracket
      if isElement then expect .rightBracket
      skipBlanks
      finishLine
      return [part]

/-- Take a header with its line end. -/
def header : Reader Section := do
  let offset ← offset
  expect .leftBracket
  let isElement ← eat .leftBracket
  let keys ← headerKeys isElement ((← get).rest.length + 1)
  return ⟨offset, keys, isElement, []⟩

/-- Take empty lines and comments, within so many. -/
def skipLines : Nat → Reader Unit
  | 0 => return ()
  | lines + 1 => do
    skipBlanks
    if ← eatComment then skipLines lines
    else if ← eat .newline then skipLines lines
    else return ()

/-- Take the rest of a document. The section that is being read is given, and whether
it counts although it may be empty. -/
def sections (current : Section) (counts : Bool) : Nat → Reader (List Section)
  | 0 => return []
  | lines + 1 => do
    skipLines ((← get).rest.length + 1)
    match ← peek with
    | none => return if counts then [current] else []
    | some ⟨_, .leftBracket⟩ =>
      let next ← header
      let rest ← sections next true lines
      return if counts then current :: rest else rest
    | some _ =>
      let entries ← entry current.entries
      sections { current with entries } true lines

end Reader

/-- The sections of a document. -/
def readSections (text : String) : Except Fault (List Section) :=
  let cursor := Cursor.ofText text
  ((Reader.sections ⟨0, [], false, []⟩ false (cursor.rest.length + 1)).run cursor).map Prod.fst

end HeaderScan.Toml
