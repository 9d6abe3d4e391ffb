import HeaderScan.Scan.Basic
import HeaderScan.Scan.Setup

/-!
# Launches

A launch makes the probes of all workers, one after the other, and then goes through its
scan. The token can be cancelled from outside at any time. Nothing else of the scan
happens before there are all probes, and nothing at all if one of them cannot be made.
-/

namespace HeaderScan

/-- The probes that were made, and the scan that they are made for. -/
structure Launch (ε π : Type) where
  /-- The probes made so far, or why there are none. -/
  setup : Setup ε π
  /-- The scan. -/
  scan : Scan

namespace Launch

variable {ε π : Type}

/-- What can happen to a launch. -/
inductive Event where
  /-- The next probe is asked for. -/
  | ask
  /-- The scan makes a step. -/
  | step (step : Step)

/-- A launch that has not asked for a probe. -/
def start (config : ScanConfig) : Launch ε π := ⟨.new, .start config⟩

/-- The launch after an event, if that event is possible. -/
def happen? (config : ScanConfig) (factory : Nat → Except ε π) (launch : Launch ε π) :
    Event → Option (Launch ε π)
  | .ask =>
    if launch.setup.calls < config.workers ∧ launch.setup.outcome.isOk then
      some { launch with setup := launch.setup.ask factory }
    else none
  | .step step =>
    if step = .cancel ∨ launch.setup.isComplete config.workers then
      (launch.scan.step? step).map fun scan => { launch with scan }
    else none

/-- What a launch comes to, once it does: the first error or the scan that has returned. -/
def result? (launch : Launch ε π) : Option (Except ε Scan) :=
  match launch.setup.outcome with
  | .error error => some (.error error)
  | .ok _ => if launch.scan.stage = .returned then some (.ok launch.scan) else none

/-- A launch in this state can come about from the start of a configuration. -/
inductive Reachable (config : ScanConfig) (factory : Nat → Except ε π) : Launch ε π → Prop where
  | start : Reachable config factory (.start config)
  | step {before after : Launch ε π} (event : Event) : Reachable config factory before →
      before.happen? config factory event = some after → Reachable config factory after

end Launch

end HeaderScan
