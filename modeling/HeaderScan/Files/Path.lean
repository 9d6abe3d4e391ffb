import HeaderScan.Text.Utf8

/-!
# Paths

A path is a sequence of bytes. Slashes divide it into names.
-/

namespace HeaderScan

/-- The path of a file, which need not be text. -/
structure FilePath where
  /-- The bytes of the path. -/
  bytes : List UInt8
deriving DecidableEq

namespace FilePath

/-- The path that a text names. -/
def ofText (text : String) : FilePath := ⟨Text.encodeUtf8 text⟩

/-- The path as text, with replacement characters for what is not UTF-8. -/
def text (path : FilePath) : String := Text.decodeUtf8Lossy path.bytes

/-- The byte that divides names. -/
def slash : UInt8 := 0x2F

/-- The names between the slashes, of which some may be empty. -/
def names (path : FilePath) : List (List UInt8) := path.bytes.splitOn slash

/-- The path starts from the root of all files. -/
def isAbsolute (path : FilePath) : Bool := path.bytes.head? == some slash

end FilePath

end HeaderScan
