import HeaderScan.Toml.Source

/-!
# Tokens

A document is a sequence of tokens: punctuation, bare words, strings, blanks,
comments and line ends.
-/

namespace HeaderScan.Toml

/-- A token of a document. -/
inductive Token where
  | whitespace (width : Nat)
  | newline
  | comment
  | equals
  | period
  | comma
  | colon
  | plus
  | leftBrace
  | rightBrace
  | leftBracket
  | rightBracket
  /-- A run of letters, digits, hyphens and underscores. -/
  | word (text : String)
  /-- A string, and whether it is written over several lines. -/
  | string (text : String) (isMultiline : Bool)
deriving DecidableEq

namespace Token

/-- How errors call a token. -/
def describe : Token → String
  | whitespace _ => "whitespace"
  | newline => "a newline"
  | comment => "a comment"
  | equals => "an equals"
  | period => "a period"
  | comma => "a comma"
  | colon => "a colon"
  | plus => "a plus"
  | leftBrace => "a left brace"
  | rightBrace => "a right brace"
  | leftBracket => "a left bracket"
  | rightBracket => "a right bracket"
  | word _ => "an identifier"
  | string _ isMultiline => if isMultiline then "a multiline string" else "a string"

end Token

/-- A token and the offset at which it begins. -/
structure Lexeme where
  /-- The offset. -/
  offset : Nat
  /-- The token. -/
  token : Token

namespace Lex

/-- The character belongs to a bare word. -/
def isWordChar (c : Char) : Bool := c.isAlphanum || c = '-' || c = '_'

/-- The character is a space or a tab. -/
def isSpace (c : Char) : Bool := c = ' ' || c = '\t'

/-- The character may stand in a string as it is. -/
def isStringChar (c : Char) : Bool := c = '\t' || (0x20 ≤ c.toNat && c.toNat != 0x7F)

/-- The character may stand in a comment. -/
def isCommentChar (c : Char) : Bool := c = '\t' || 0x20 ≤ c.toNat

/-- The value of a hexadecimal digit. -/
def hexValue? (c : Char) : Option Nat :=
  let n := c.toNat
  if c.isDigit then some (n - 0x30)
  else if 0x41 ≤ n ∧ n ≤ 0x46 then some (n - 0x41 + 10)
  else if 0x61 ≤ n ∧ n ≤ 0x66 then some (n - 0x61 + 10)
  else none

/-- The number that the next so many hexadecimal digits spell, after those that
spell `value`. A string that began at `start` may end before. -/
def hexNumber (start value : Nat) : Nat → List Spot → Except Fault (Nat × List Spot)
  | 0, spots => .ok (value, spots)
  | _ + 1, [] => .error ⟨start, .unterminatedString⟩
  | digits + 1, spot :: rest =>
    match hexValue? spot.char with
    | some digit => hexNumber start (value * 16 + digit) digits rest
    | none => .error ⟨spot.offset, .badHexEscape spot.char⟩

/-- The character with a number that was escaped at an offset. -/
def charOfNumber (offset value : Nat) : Except Fault Char :=
  if value.isValidChar then .ok (Char.ofNat value) else .error ⟨offset, .badEscapeValue value⟩

/-- A backslash at the end of a line joins it with the next text: what is left
after the blanks around the line end. The blank after the backslash is given. -/
def afterJoin (blank : Spot) (rest : List Spot) : Except Fault (List Spot) :=
  let isGap (spot : Spot) : Bool := isSpace spot.char || spot.char = '\n'
  if blank.char = '\n' then .ok (rest.dropWhile isGap)
  else
    match rest.dropWhile (isSpace ·.char) with
    | [] => .ok []
    | next :: rest =>
      if next.char = '\n' then .ok (rest.dropWhile isGap)
      else .error ⟨blank.offset, .badEscape blank.char⟩

/-- What an escape stands for, read after its backslash; a joined line end stands for nothing. -/
def escape (start : Nat) (isMultiline : Bool) :
    List Spot → Except Fault (Option Char × List Spot)
  | [] => .error ⟨start, .unterminatedString⟩
  | spot :: rest =>
    match spot.char with
    | '"' => .ok (some '"', rest)
    | '\\' => .ok (some '\\', rest)
    | 'b' => .ok (some '\x08', rest)
    | 'f' => .ok (some '\x0c', rest)
    | 'n' => .ok (some '\n', rest)
    | 'r' => .ok (some '\r', rest)
    | 't' => .ok (some '\t', rest)
    | 'u' => do
      let (value, rest) ← hexNumber start 0 4 rest
      return (some (← charOfNumber spot.offset value), rest)
    | 'U' => do
      let (value, rest) ← hexNumber start 0 8 rest
      return (some (← charOfNumber spot.offset value), rest)
    | c =>
      if isMultiline && (isSpace c || c = '\n') then do
        return (none, ← afterJoin spot rest)
      else .error ⟨spot.offset, .badEscape c⟩

/-- A kind of string: its quote, whether it has escapes, and whether it may span lines. -/
structure Quoting where
  /-- The quote around the string. -/
  quote : Char
  /-- Backslashes begin escapes. -/
  hasEscapes : Bool
  /-- The string may span lines, and ends with three quotes. -/
  isMultiline : Bool

/-- The next so many spots are quotes. -/
def startsWithQuotes (quote : Char) (count : Nat) (spots : List Spot) : Bool :=
  (spots.take count).length == count && (spots.take count).all (·.char = quote)

/-- The rest of a string that began at `start`, of which `chars` have been read,
last first; within so many characters. Up to two quotes before the closing three
belong to the string. -/
def stringRest (start : Nat) (quoting : Quoting) (chars : List Char) :
    Nat → List Spot → Except Fault (String × List Spot)
  | 0, _ | _, [] => .error ⟨start, .unterminatedString⟩
  | fuel + 1, spot :: rest =>
    let c := spot.char
    if c = '\n' then
      if quoting.isMultiline then stringRest start quoting ('\n' :: chars) fuel rest
      else .error ⟨spot.offset, .newlineInString⟩
    else if c = quoting.quote then
      if !quoting.isMultiline then .ok (.ofList chars.reverse, rest)
      else if startsWithQuotes c 2 rest then
        let rest := rest.drop 2
        let extra := (rest.take 2).takeWhile (·.char = c)
        .ok (.ofList (extra.map Spot.char ++ chars).reverse, rest.drop extra.length)
      else stringRest start quoting (c :: chars) fuel rest
    else if c = '\\' && quoting.hasEscapes then do
      let (char?, rest) ← escape start quoting.isMultiline rest
      stringRest start quoting (char?.toList ++ chars) fuel rest
    else if isStringChar c then stringRest start quoting (c :: chars) fuel rest
    else .error ⟨spot.offset, .badCharacterInString c⟩

/-- A string whose first quote at `start` has been read. -/
def string (start : Nat) (quote : Char) (rest : List Spot) : Except Fault (Token × List Spot) := do
  let hasEscapes := quote = '"'
  if startsWithQuotes quote 2 rest then
    let rest := rest.drop 2
    let content := if (rest.head?.map Spot.char) = some '\n' then rest.drop 1 else rest
    let (text, rest) ←
      stringRest start ⟨quote, hasEscapes, true⟩ [] (content.length + 1) content
    return (.string text true, rest)
  else
    let (text, rest) ← stringRest start ⟨quote, hasEscapes, false⟩ [] (rest.length + 1) rest
    return (.string text false, rest)

/-- The next token and what is left after it; nothing at the end of the text. -/
def next : List Spot → Except Fault (Option (Lexeme × List Spot))
  | [] => .ok none
  | spot :: rest =>
    let single (token : Token) := .ok (some (⟨spot.offset, token⟩, rest))
    match spot.char with
    | '\n' => single .newline
    | '=' => single .equals
    | '.' => single .period
    | ',' => single .comma
    | ':' => single .colon
    | '+' => single .plus
    | '\x7b' => single .leftBrace
    | '\x7d' => single .rightBrace
    | '[' => single .leftBracket
    | ']' => single .rightBracket
    | '#' => .ok (some (⟨spot.offset, .comment⟩, rest.dropWhile (isCommentChar ·.char)))
    | '\'' | '"' => do
      let (token, rest) ← string spot.offset spot.char rest
      return some (⟨spot.offset, token⟩, rest)
    | c =>
      if isSpace c then
        let blanks := rest.takeWhile (isSpace ·.char)
        .ok (some (⟨spot.offset, .whitespace (blanks.length + 1)⟩, rest.drop blanks.length))
      else if isWordChar c then
        let word := (spot :: rest).takeWhile (isWordChar ·.char)
        let token : Token := .word (.ofList (word.map Spot.char))
        .ok (some (⟨spot.offset, token⟩, rest.drop (word.length - 1)))
      else .error ⟨spot.offset, .unexpectedCharacter c⟩

end Lex

end HeaderScan.Toml
