import HeaderScan.Pool.Basic

/-!
# Letting workers run

A worker that is polled runs as far as it can. Which move comes next follows from
its phase and, while it probes, from what the probe has to say.
-/

namespace HeaderScan

/-- What a probe comes to. -/
inductive ProbeResult where
  /-- It answers. -/
  | answer (status : Status)
  /-- It panics. -/
  | panic

namespace Pool

/-- The next move of a worker. A cancellation comes before any other event, and a
probe without result is waited for. -/
def nextMove? (pool : Pool) (result? : Option ProbeResult) : Phase → Option Move
  | .idle => some .look
  | .listening => some (if pool.isCancelled then .heed else .fetch)
  | .holding _ => some .begin
  | .probing _ =>
    match result? with
    | some (.answer status) => some (.answer status)
    | some .panic => some .panic
    | none => if pool.isCancelled then some .abandon else none
  | .sending _ => some .send
  | .leaving _ _ => some .letGo
  | .gone _ => none

/-- Let a worker make its next move, if it can. -/
def advance? (pool : Pool) (result? : Option ProbeResult) (w : Nat) : Option Pool := do
  let worker ← pool.workers[w]?
  let move ← pool.nextMove? result? worker.phase
  pool.move? w move

/-- Let a leaving worker let go of all its shares. -/
def dismiss (pool : Pool) (w : Nat) : Pool :=
  [Move.letGo, .letGo, .letGo].foldl (fun pool move => (pool.move? w move).getD pool) pool

end Pool

end HeaderScan
