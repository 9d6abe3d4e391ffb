import HeaderScan.Program

/-!
# The command

The command runs the program with the files of the machine. It is connected to no
network, so that every request fails.
-/

namespace HeaderScan.Command

/-- Why a file could not be read. -/
def fileError : IO.Error → FileError
  | .noFileOrDirectory _ _ _ => .notFound
  | .permissionDenied _ _ _ => .permissionDenied
  | .inappropriateType none _ _ => .isADirectory
  | .inappropriateType (some _) _ _ => .notADirectory
  | error => .other (toString error)

/-- Read a file. -/
def readFile (path : FilePath) : IO (Except FileError (List UInt8)) := do
  try
    return .ok (← IO.FS.readBinFile path.text).toList
  catch error => return .error (fileError error)

/-- Read the files that a command line needs: the configuration file, and then the
hosts file that it may name. -/
def readFiles (arguments : List (List UInt8)) :
    IO (List (FilePath × Except FileError (List UInt8))) := do
  match Invocation.ofArguments arguments with
  | .error _ => return []
  | .ok invocation =>
    let path := FilePath.ofText invocation.configFile
    let content ← readFile path
    match (invocation.settings fun _ => content).toOption.bind Config.hostsFile with
    | some hostsFile => return [(path, content), (hostsFile, ← readFile hostsFile)]
    | none => return [(path, content)]

end HeaderScan.Command

open HeaderScan in
/-- Run the program with the arguments of the command. -/
def main (arguments : List String) : IO UInt32 := do
  let arguments := arguments.map Text.encodeUtf8
  let files ← Command.readFiles arguments
  let world : Program.World := {
    read := fun path => (files.lookup path).getD (.error .notFound)
    network := .absent
    interruptAt := none
    colors := ← (← IO.getStdout).isTty }
  let outcome := Program.run world arguments
  IO.print outcome.stdout
  IO.eprint outcome.stderr
  return outcome.exitCode.toUInt32
