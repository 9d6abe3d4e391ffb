import HeaderScan.Toml.Error

/-!
# Texts with offsets

A document is read character by character, each with its offset in bytes. A line
feed after a carriage return makes one line end, at the offset of the return.
-/

namespace HeaderScan.Toml

/-- A character and its offset in bytes. -/
structure Spot where
  /-- The offset. -/
  offset : Nat
  /-- The character. -/
  char : Char

/-- The characters of a text that begins at an offset. -/
def spotsFrom (offset : Nat) : List Char → List Spot
  | [] => []
  | '\r' :: '\n' :: rest => ⟨offset, '\n'⟩ :: spotsFrom (offset + 2) rest
  | c :: rest => ⟨offset, c⟩ :: spotsFrom (offset + c.utf8Size) rest

/-- What is left of a text that is being read. -/
structure Cursor where
  /-- The characters that are left. -/
  rest : List Spot
  /-- The size of the whole text in bytes. -/
  size : Nat

namespace Cursor

/-- A text from its beginning; a byte order mark in front does not count as content. -/
def ofText (text : String) : Cursor :=
  let spots := spotsFrom 0 text.toList
  match spots with
  | ⟨_, '\uFEFF'⟩ :: rest => ⟨rest, text.utf8ByteSize⟩
  | _ => ⟨spots, text.utf8ByteSize⟩

/-- The offset of the next character, or of the end. -/
def offset (cursor : Cursor) : Nat := (cursor.rest.head?.map Spot.offset).getD cursor.size

end Cursor

/-- The place of an offset in a text, of which the given characters from this
position on are left; the line began at `lineStart`. -/
def placeFrom (offset line lineStart position : Nat) : List Char → Place
  | [] => ⟨line, offset - lineStart⟩
  | c :: rest =>
    if c = '\n' then
      if offset ≤ position then ⟨line, offset - lineStart⟩
      else placeFrom offset (line + 1) (position + 1) (position + 1) rest
    else placeFrom offset line lineStart (position + c.utf8Size) rest

/-- The place of an offset in a text. -/
def placeOf (text : String) (offset : Nat) : Place := placeFrom offset 0 0 0 text.toList

end HeaderScan.Toml
