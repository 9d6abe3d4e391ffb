import HeaderScan.Http.Probe
import HeaderScan.Scan.Setup
import HeaderScan.Scan.Timeline

/-!
# Scans over a network

Each worker of such a scan has a client of its own, all made with the same settings.
-/

namespace HeaderScan

open Http

/-- How a client probes hosts. -/
def Http.Client.plan (network : Network) (client : Client) (host : Host) : ProbePlan :=
  ⟨.answer (client.check network host), client.delay network host⟩

/-- Run a scan with clients that have these settings, unless they cannot be made. It
is cancelled at a moment, if one is given. -/
def scanNetwork (network : Network) (config : ScanConfig) (builder : ClientBuilder)
    (cancelAt : Option Nat) : Except ScanError Scan :=
  match (Setup.make (fun _ => builder.build) config.workers).outcome with
  | .error error => .error error
  | .ok [] => .ok (.start config)
  | .ok (client :: _) => .ok (Timeline.run config (client.plan network) cancelAt).scan

end HeaderScan
