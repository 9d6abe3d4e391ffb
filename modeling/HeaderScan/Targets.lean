import HeaderScan.Config.Basic
import HeaderScan.Files.Directory

/-!
# The hosts to scan

Hosts come from the command line, from the configuration and from a hosts file,
in this order. Only where none of these is given do the default hosts stand in.
-/

namespace HeaderScan

namespace HostsFile

/-- The line marks a comment. -/
def isComment (line : String) : Bool := line.toList.head? == some '#'

/-- The hosts that a hosts file lists: one a line, blanks around it left out. Blank
lines and comments list none. -/
def hosts (text : String) : List Host :=
  let lines := (text.toList.splitOn '\n').map fun line => String.ofList (Text.trimChars line)
  (lines.filter fun line => !line.isEmpty && !isComment line).map Host.mk

end HostsFile

/-- The hosts file at a path cannot be read. -/
structure HostsFileError where
  /-- The path of the file. -/
  path : FilePath
  /-- Why it cannot be read. -/
  cause : FileError

/-- What could not be done, in words. -/
def HostsFileError.message (error : HostsFileError) : String :=
  "Cannot read hosts file " ++ error.path.text

/-- The hosts to scan, given those from the command line, the whole configuration
and a way to read files. -/
def targets (given : List Host) (config : Config)
    (read : FilePath → Except FileError (List UInt8)) : Except HostsFileError (List Host) :=
  let listed := given ++ config.hosts.map Host.mk
  match config.hostsFile with
  | some path =>
    match read path >>= fileText with
    | .ok text => .ok (listed ++ HostsFile.hosts text)
    | .error cause => .error ⟨path, cause⟩
  | none => .ok (if listed = [] then defaultHosts else listed)

end HeaderScan
