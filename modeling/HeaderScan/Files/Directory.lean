import HeaderScan.Files.Path

/-!
# The files of a working directory

Of all files, those in the working directory are known: plain files with their
content, and empty directories. A path is followed name by name; what lies outside
of the working directory counts as absent.
-/

namespace HeaderScan

/-- Why a file cannot be read. -/
inductive FileError where
  | notFound
  | permissionDenied
  | notADirectory
  | isADirectory
  | nameTooLong
  | nulInPath
  | notText
  | other (details : String)
deriving DecidableEq

/-- The reason in words. -/
def FileError.message : FileError → String
  | notFound => "No such file or directory (os error 2)"
  | permissionDenied => "Permission denied (os error 13)"
  | notADirectory => "Not a directory (os error 20)"
  | isADirectory => "Is a directory (os error 21)"
  | nameTooLong => "File name too long (os error 36)"
  | nulInPath => "file name contained an unexpected NUL byte"
  | notText => "stream did not contain valid UTF-8"
  | other details => details

/-- What a name in a directory stands for. -/
inductive DirectoryEntry where
  /-- A file with this content. -/
  | file (content : List UInt8)
  /-- A directory with nothing in it. -/
  | directory

/-- The working directory. -/
structure Directory where
  /-- The names in it, each with what it stands for. -/
  entries : List (List UInt8 × DirectoryEntry)

namespace Directory

/-- How far a path has been followed. -/
inductive Place where
  /-- To the working directory. -/
  | working
  /-- To a directory within it. -/
  | inner
  /-- To a directory outside of it. -/
  | outer
  /-- To a file. -/
  | file (content : List UInt8)

/-- The longest name, in bytes. -/
def maxName : Nat := 255

/-- The longest path, in bytes. -/
def maxPath : Nat := 4095

/-- Go on from a directory to the one above it. -/
def Place.parent : Place → Place
  | inner => working
  | _ => outer

/-- Find a proper name in a directory. -/
def lookUp (files : Directory) (place : Place) (name : List UInt8) : Except FileError Place :=
  if name.length > maxName then .error .nameTooLong
  else
    match place, files.entries.lookup name with
    | .working, some (.file content) => .ok (.file content)
    | .working, some .directory => .ok .inner
    | _, _ => .error .notFound

/-- Follow one name: an empty name and a dot stay, two dots go up. -/
def follow (files : Directory) (place : Place) (name : List UInt8) : Except FileError Place :=
  match place with
  | .file _ => .error .notADirectory
  | _ =>
    if name = [] || name = [0x2E] then .ok place
    else if name = [0x2E, 0x2E] then .ok place.parent
    else files.lookUp place name

/-- Where a path leads. -/
def locate (files : Directory) (path : FilePath) : Except FileError Place :=
  if path.bytes = [] then .error .notFound
  else if path.bytes.contains 0 then .error .nulInPath
  else if path.bytes.length > maxPath then .error .nameTooLong
  else path.names.foldlM files.follow (if path.isAbsolute then .outer else .working)

/-- The content of the file at a path. -/
def read (files : Directory) (path : FilePath) : Except FileError (List UInt8) := do
  match ← files.locate path with
  | .file content => return content
  | _ => throw .isADirectory

end Directory

/-- The text that the content of a file holds. -/
def fileText (content : List UInt8) : Except FileError String :=
  (Text.decodeUtf8 content).mapError fun _ => .notText

end HeaderScan
