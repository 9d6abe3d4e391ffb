import HeaderScan.Count
import HeaderScan.Host
import HeaderScan.ScanError

/-!
# What to scan

A scan configuration lists the hosts and says how many workers share them.
-/

namespace HeaderScan

/-- The number of workers when none is configured. -/
def defaultWorkers : Nat := 256

/-- The hosts that are scanned when no target is given. -/
def defaultHosts : List Host := [⟨"10.0.0.1"⟩, ⟨"10.0.0.2"⟩, ⟨"10.0.0.3"⟩]

/-- The hosts of a scan and the size of its worker pool. -/
structure ScanConfig where
  /-- The hosts, in the order in which they are handed out. -/
  hosts : List Host
  /-- How many workers share the hosts. -/
  workers : Nat
  /-- There is at least one worker. -/
  workers_pos : 0 < workers
deriving DecidableEq

namespace ScanConfig

/-- The configuration for these hosts, unless there is no worker. -/
def ofHosts (hosts : List Host) (workers : Nat) : Except ScanError ScanConfig :=
  if workers_pos : 0 < workers then .ok ⟨hosts, workers, workers_pos⟩
  else .error (.invalidWorkerCount workers)

/-- The configuration of a scan for which nothing is configured. -/
def standard : ScanConfig := ⟨defaultHosts, defaultWorkers, by decide⟩

/-- The work queue has room for two hosts per worker, as far as counts go. -/
def queueCapacity (config : ScanConfig) : Nat := min (config.workers * 2) Count.max

end ScanConfig

end HeaderScan
