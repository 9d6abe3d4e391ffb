import HeaderScan.Files.Path
import HeaderScan.Http.ClientBuilder
import HeaderScan.ScanConfig

/-!
# Configurations

A configuration has a default for every setting. The one from the command line is
completed by the one from the configuration file: what differs from its default
stays, and the file decides on the rest.
-/

namespace HeaderScan

/-- The settings of the program. -/
structure Config where
  /-- Print a summary before exiting. -/
  verbose : Bool
  /-- The number of workers. -/
  workers : Nat
  /-- The number of threads; by default one for each core. -/
  threads : Option Nat
  /-- The field to look for. -/
  header : String
  /-- A file with hosts to scan. -/
  hostsFile : Option FilePath
  /-- Hosts to scan. -/
  hosts : List String
  /-- The user agent. -/
  userAgent : String
  /-- Further fields of every request, as lines `name=value`. -/
  requestHeaders : List String
  /-- How many seconds a request may take. -/
  timeout : Option Nat
deriving DecidableEq

namespace Config

/-- The configuration in which nothing is configured. -/
def standard : Config where
  verbose := false
  workers := defaultWorkers
  threads := none
  header := Http.defaultHeader
  hostsFile := none
  hosts := []
  userAgent := Http.defaultUserAgent
  requestHeaders := []
  timeout := none

/-- The first value unless it is the default, else the second. -/
def prefer {α : Type} [DecidableEq α] (default first second : α) : α :=
  if first = default then second else first

/-- The settings of the first configuration, completed by those of the second. -/
def merge (first second : Config) : Config where
  verbose := prefer standard.verbose first.verbose second.verbose
  workers := prefer standard.workers first.workers second.workers
  threads := prefer standard.threads first.threads second.threads
  header := prefer standard.header first.header second.header
  hostsFile := prefer standard.hostsFile first.hostsFile second.hostsFile
  hosts := prefer standard.hosts first.hosts second.hosts
  userAgent := prefer standard.userAgent first.userAgent second.userAgent
  requestHeaders := prefer standard.requestHeaders first.requestHeaders second.requestHeaders
  timeout := prefer standard.timeout first.timeout second.timeout

end Config

end HeaderScan
