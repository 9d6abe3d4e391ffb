/-!
# Reading bytes as UTF-8

Bytes fall into pieces: each is a well-formed character or a run of bytes that
begins none. Such a run is as long as the bytes could still have begun a
character. Strict reading refuses it, lenient reading replaces it by one
replacement character.
-/

namespace HeaderScan.Text

/-- What the bytes at one place are. -/
inductive Utf8Piece where
  /-- They encode this character. -/
  | char (c : Char)
  /-- This many bytes begin no character. -/
  | broken (length : Nat)
  /-- This many bytes begin a character, but the text ends within it. -/
  | cutOff (length : Nat)
deriving DecidableEq

namespace Utf8Piece

/-- The characters that stand for the piece. -/
def toChar : Utf8Piece → Char
  | char c => c
  | broken _ | cutOff _ => '\uFFFD'

end Utf8Piece

/-- The byte continues a character. -/
def isContinuation (b : UInt8) : Bool := 0x80 ≤ b && b < 0xC0

/-- The low six bits of a continuation byte. -/
def payload (b : UInt8) : Nat := b.toNat % 64

/-- The second byte may follow this first byte of a three-byte character: it is
neither written with too many bytes nor a surrogate. -/
def isSecondOfThree (first second : UInt8) : Bool :=
  isContinuation second && (first != 0xE0 || 0xA0 ≤ second) && (first != 0xED || second < 0xA0)

/-- The second byte may follow this first byte of a four-byte character: it is
neither written with too many bytes nor beyond the last code point. -/
def isSecondOfFour (first second : UInt8) : Bool :=
  isContinuation second && (first != 0xF0 || 0x90 ≤ second) && (first != 0xF4 || second < 0x90)

/-- The pieces of a byte sequence. -/
def utf8Pieces : List UInt8 → List Utf8Piece
  | [] => []
  | a :: after =>
    if a < 0x80 then .char (Char.ofNat a.toNat) :: utf8Pieces after
    else if a < 0xC2 || 0xF4 < a then .broken 1 :: utf8Pieces after
    else
      match after with
      | [] => [.cutOff 1]
      | b :: after₂ =>
        if a < 0xE0 then
          if isContinuation b then
            .char (Char.ofNat (a.toNat % 32 * 64 + payload b)) :: utf8Pieces after₂
          else .broken 1 :: utf8Pieces (b :: after₂)
        else if a < 0xF0 then
          if isSecondOfThree a b then
            match after₂ with
            | [] => [.cutOff 2]
            | c :: after₃ =>
              if isContinuation c then
                .char (Char.ofNat ((a.toNat % 16 * 64 + payload b) * 64 + payload c)) ::
                  utf8Pieces after₃
              else .broken 2 :: utf8Pieces (c :: after₃)
          else .broken 1 :: utf8Pieces (b :: after₂)
        else if isSecondOfFour a b then
          match after₂ with
          | [] => [.cutOff 2]
          | c :: after₃ =>
            if isContinuation c then
              match after₃ with
              | [] => [.cutOff 3]
              | d :: after₄ =>
                if isContinuation d then
                  .char (Char.ofNat
                    (((a.toNat % 8 * 64 + payload b) * 64 + payload c) * 64 + payload d)) ::
                    utf8Pieces after₄
                else .broken 3 :: utf8Pieces (d :: after₄)
            else .broken 2 :: utf8Pieces (c :: after₃)
        else .broken 1 :: utf8Pieces (b :: after₂)
termination_by bytes => bytes.length

/-- Why bytes are not UTF-8. -/
inductive Utf8Error where
  /-- The bytes from this index on begin no character; so many of them are wrong. -/
  | broken (index length : Nat)
  /-- The text ends within the character that begins at this index. -/
  | cutOff (index : Nat)
deriving DecidableEq

/-- The reason in words. -/
def Utf8Error.message : Utf8Error → String
  | broken index length =>
    "invalid utf-8 sequence of " ++ length.repr ++ " bytes from index " ++ index.repr
  | cutOff index => "incomplete utf-8 byte sequence from index " ++ index.repr

/-- The characters of pieces that start at the given index. -/
def charsOfPieces (index : Nat) : List Utf8Piece → Except Utf8Error (List Char)
  | [] => .ok []
  | .char c :: rest => (charsOfPieces (index + c.utf8Size) rest).map (c :: ·)
  | .broken length :: _ => .error (.broken index length)
  | .cutOff _ :: _ => .error (.cutOff index)

/-- The text that the bytes encode. -/
def decodeUtf8 (bytes : List UInt8) : Except Utf8Error String :=
  (charsOfPieces 0 (utf8Pieces bytes)).map .ofList

/-- The text that the bytes encode, with a replacement character for each run
that encodes none. -/
def decodeUtf8Lossy (bytes : List UInt8) : String :=
  .ofList ((utf8Pieces bytes).map Utf8Piece.toChar)

/-- The bytes that encode a text. -/
def encodeUtf8 (text : String) : List UInt8 := text.toUTF8.toList

end HeaderScan.Text
