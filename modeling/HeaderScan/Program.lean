import HeaderScan.CommandLine.Invocation
import HeaderScan.Config.Document
import HeaderScan.Http.FieldLine
import HeaderScan.Report.Statistics
import HeaderScan.Scan.Network
import HeaderScan.Targets

/-!
# The program

The program reads its configuration and the hosts to scan, checks all settings, scans
the hosts, and reports what it found. If something is wrong with the settings, no
host is scanned.
-/

namespace HeaderScan

/-- Why there is nothing to scan. -/
inductive Failure where
  /-- The configuration file cannot be used. -/
  | config (error : ConfigError)
  /-- The hosts file cannot be read. -/
  | hostsFile (error : HostsFileError)
  /-- There has to be a thread. -/
  | noThreads
  /-- A field of the requests is not valid. -/
  | requestField (error : Http.FieldLineError)
  /-- The scan cannot be set up. -/
  | scan (error : ScanError)

namespace Failure

/-- What is wrong. -/
def message : Failure → String
  | config error => error.message
  | hostsFile error => error.message
  | noThreads => "Number of threads must be greater than zero"
  | requestField error => error.message
  | scan error => error.message

/-- Why it is so, if there is more to say. -/
def cause? : Failure → Option String
  | hostsFile error => some error.cause.message
  | scan .invalidHeaderValue => some Http.FieldLineError.badValue.message
  | scan (.buildClient cause) => some cause.message
  | _ => none

/-- The failure as it is reported. -/
def report (failure : Failure) : String :=
  "Error: " ++ failure.message ++
    failure.cause?.elim "" ("\n\nCaused by:\n    " ++ ·) ++ "\n"

end Failure

/-- What a run of the program leaves behind. -/
structure Outcome where
  /-- The exit code. -/
  exitCode : Nat
  /-- What is written to standard output. -/
  stdout : String
  /-- What is written to standard error. -/
  stderr : String
deriving DecidableEq

namespace Outcome

/-- The program has done what it was asked to do. -/
def success (stdout : String) : Outcome := ⟨0, stdout, ""⟩

/-- The program ends with an error. -/
def failure (stderr : String) : Outcome := ⟨1, "", stderr⟩

/-- The program breaks off. -/
def abort (stderr : String) : Outcome := ⟨101, "", stderr⟩

end Outcome

/-- How a command line that is not carried out ends the program. -/
def CommandLine.Refusal.outcome (refusal : CommandLine.Refusal) : Outcome :=
  match refusal with
  | .help | .version => .success (refusal.message ++ "\n")
  | .notText => .abort (refusal.message ++ "\n")
  | _ => .failure (refusal.message ++ "\n")

/-- A scan that is ready to run. -/
structure Job where
  /-- The hosts and the number of workers. -/
  config : ScanConfig
  /-- The settings of the clients. -/
  builder : Http.ClientBuilder
  /-- The report has statistics. -/
  verbose : Bool

namespace Invocation

/-- The settings: those of the command line, completed by the configuration file. -/
def settings (read : FilePath → Except FileError (List UInt8)) (invocation : Invocation) :
    Except ConfigError Config := do
  match ← Config.load read invocation.configFile with
  | some found => return invocation.config.merge found
  | none => return invocation.config

/-- The settings of the clients. -/
def clientBuilder (config : Config) (fields : Http.FieldMap) : Http.ClientBuilder :=
  Http.ClientBuilder.new
    |>.setHeader config.header
    |>.setUserAgent config.userAgent
    |>.setCustomFields fields
    |>.setTimeout (config.timeout.map Duration.ofSeconds)

/-- The scan that a command line asks for. -/
def job (read : FilePath → Except FileError (List UInt8)) (invocation : Invocation) :
    Except Failure Job := do
  let config ← (invocation.settings read).mapError .config
  let hosts ← (targets (invocation.hosts.map Host.mk) config read).mapError .hostsFile
  if config.threads = some 0 then throw .noThreads
  let fields ← (Http.FieldLine.parseAll config.requestHeaders).mapError .requestField
  let scanConfig ← (ScanConfig.ofHosts hosts config.workers).mapError .scan
  return ⟨scanConfig, clientBuilder config fields, config.verbose⟩

end Invocation

namespace Program

/-- The statistics of a scan with these responses, in the order of their arrival. -/
def statistics (responses : List Response) (summary : Summary) : Statistics :=
  (responses.foldl Statistics.add .new).finish summary

/-- What is written about a scan with these responses, in the order of their arrival. -/
def report (verbose colors : Bool) (responses : List Response) (summary : Summary) : String :=
  let found := responses.filter (·.status.isFound)
  String.join (found.map fun response => response.line ++ "\n") ++
    (if verbose then "\n" ++ (statistics responses summary).text colors ++ "\n" else "") ++
    "All done\n"

/-- What a scan that has come to its end leaves behind. -/
def outcome (job : Job) (colors : Bool) : Except ScanError Scan → Outcome
  | .ok scan => .success (report job.verbose colors scan.responses scan.summary)
  | .error error => .failure (Failure.scan error).report

/-- What the program meets when it is run. -/
structure World where
  /-- The files. -/
  read : FilePath → Except FileError (List UInt8)
  /-- The network. -/
  network : Http.Network
  /-- When the user interrupts the scan, in milliseconds from its start. -/
  interruptAt : Option Nat
  /-- Lines stand out by colours. -/
  colors : Bool

/-- Run the program with these arguments. -/
def run (world : World) (arguments : List (List UInt8)) : Outcome :=
  match Invocation.ofArguments arguments with
  | .error refusal => refusal.outcome
  | .ok invocation =>
    match invocation.job world.read with
    | .error failure => .failure failure.report
    | .ok job =>
      let scan := scanNetwork world.network job.config job.builder world.interruptAt
      outcome job world.colors scan

end Program

end HeaderScan
