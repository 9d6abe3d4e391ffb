/-!
# Making the probes of a scan

Every worker gets a probe of its own. All probes are made before anything else
happens, and the first that cannot be made ends the scan.
-/

namespace HeaderScan

/-- The probes of a scan, or why there are none. -/
structure Setup (ε π : Type) where
  /-- How many probes were asked for. -/
  calls : Nat
  /-- All probes in order, or the first error. -/
  outcome : Except ε (List π)

namespace Setup

variable {ε π : Type}

/-- Ask for so many probes, with this number as the first, until one cannot be made. -/
def makeFrom (make : Nat → Except ε π) (first : Nat) : Nat → Setup ε π
  | 0 => ⟨0, .ok []⟩
  | count + 1 =>
    match make first with
    | .error error => ⟨1, .error error⟩
    | .ok probe =>
      let rest := makeFrom make (first + 1) count
      ⟨rest.calls + 1, rest.outcome.map (probe :: ·)⟩

/-- Ask for one probe for each of so many workers. -/
def make (factory : Nat → Except ε π) (workers : Nat) : Setup ε π := makeFrom factory 0 workers

/-- Nothing was asked for. -/
def new : Setup ε π := ⟨0, .ok []⟩

/-- Ask for the next probe, unless there was one that could not be made. -/
def ask (factory : Nat → Except ε π) (setup : Setup ε π) : Setup ε π :=
  match setup.outcome with
  | .error _ => setup
  | .ok probes => ⟨setup.calls + 1, (factory setup.calls).map (probes ++ [·])⟩

/-- There is a probe for each of so many workers. -/
def isComplete (workers : Nat) (setup : Setup ε π) : Bool :=
  setup.calls == workers && setup.outcome.isOk

end Setup

end HeaderScan
