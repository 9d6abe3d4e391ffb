import HeaderScan.Proofs.Pool.Polling
import HeaderScan.Proofs.Scan.Conduct

/-!
# Scans come to an end

Every step of a scan uses up one of the steps that are left: a worker comes nearer to its
end, or a host comes nearer to its report, or the scan itself goes on. The hosts and the
workers that a scan starts with bound the steps that are left, so they bound every run,
whatever is cancelled and whatever panics.
-/

namespace HeaderScan

namespace Pool

/-- A new worker has five moves before it, if it gets no host. -/
@[simp] theorem movesLeft_spawn (pool : Pool) : pool.spawn.movesLeft = pool.movesLeft + 5 := by
  rw [movesLeft_eq, movesLeft_eq, phases_spawn, List.map_append, List.sum_append]
  change _ + 5 + 6 * pool.queue.items.length + pool.results.items.length = _
  omega

/-- What the maker holds is no work that is left. -/
@[simp] theorem movesLeft_release (pool : Pool) : pool.release.movesLeft = pool.movesLeft := rfl

/-- Nor is the cancellation. -/
@[simp] theorem movesLeft_cancel (pool : Pool) : pool.cancel.movesLeft = pool.movesLeft := rfl

@[simp] theorem spawn_isCancelled (pool : Pool) : pool.spawn.isCancelled = pool.isCancelled := rfl

@[simp] theorem release_isCancelled (pool : Pool) :
    pool.release.isCancelled = pool.isCancelled := rfl

end Pool

namespace Stage

/-- A bound on the steps that are left to the scan itself; a worker that is still to be
started brings five moves with it. -/
def stepsLeft : Stage → Nat
  | starting left => 6 * left + 3
  | running => 2
  | awaiting _ => 1
  | returned => 0

theorem stepsLeft_running : running.stepsLeft = 2 := rfl

end Stage

namespace Scan

variable {config : ScanConfig} {scan after : Scan} {step : Step} {steps : List Step}

/-- A bound on the steps that are left to a scan. -/
def stepsLeft (scan : Scan) : Nat :=
  scan.pool.movesLeft + scan.feed.movesLeft + scan.stage.stepsLeft + scan.isCollecting.toNat +
    (!scan.pool.isCancelled).toNat

/-- After a look at the barrier at most one step is left to the scan itself. -/
theorem stepsLeft_ofWait_le (wait : Barrier.Wait) : (Stage.ofWait wait).stepsLeft ≤ 1 := by
  cases wait <;> simp [Stage.ofWait, Stage.stepsLeft]

/-- A wait that goes on is over, since nothing notifies it but the last guard. -/
theorem Staged.poll_eq_done (h : scan.Staged config) {wait : Barrier.Wait}
    (hstage : scan.stage = .awaiting wait) (hnext : scan.pool.barrier.poll wait ≠ wait) :
    scan.pool.barrier.poll wait = .done := by
  obtain ⟨seen, rfl, -, hsome⟩ := h.awaiting wait hstage
  have hnone : scan.pool.barrier.outstanding = 0 := by
    by_contra hheld
    have hseen := hsome hheld
    simp [Barrier.poll, hseen] at hnext
  rw [poll_eq_look hnext, Barrier.look, if_pos hnone]

/-- Every step of a scan is one of those that are left. -/
theorem Stepped.stepsLeft_lt (h : Stepped scan step after) (hstaged : scan.Staged config) :
    after.stepsLeft < scan.stepsLeft := by
  cases h with
  | spawn hstage =>
    simp only [stepsLeft, hstage, Stage.stepsLeft, Pool.movesLeft_spawn, Pool.spawn_isCancelled]
    omega
  | run hstage =>
    simp only [stepsLeft, hstage, Stage.stepsLeft, Pool.movesLeft_release,
      Pool.release_isCancelled]
    omega
  | worker hmoved =>
    have hless := hmoved.movesLeft_lt
    simp only [stepsLeft, hmoved.flags.1]
    omega
  | cancel htoken =>
    simp only [stepsLeft, Pool.movesLeft_cancel, htoken, Bool.not_false, Bool.toNat_true]
    change _ + 0 < _
    omega
  | exhaust _ hfeed | heed _ hfeed | look _ hfeed | refuse _ hfeed | giveUp _ hfeed =>
    simp only [stepsLeft, hfeed, Feed.movesLeft, List.length_cons]
    omega
  | offer _ hfeed =>
    -- A host that is offered costs the feed eight steps, and six are left to the workers.
    simp only [stepsLeft, hfeed, Feed.movesLeft, Pool.movesLeft_eq, Pool.phases_mk,
      Pool.map_phase_workers, List.length_append, List.length_singleton]
    omega
  | close _ hfeed =>
    simp only [stepsLeft, hfeed, Feed.movesLeft, Pool.movesLeft_eq, Pool.phases_mk,
      Pool.map_phase_workers, WorkQueue.close]
    omega
  | collect _ _ hitems =>
    simp only [stepsLeft, Pool.movesLeft_eq, Pool.phases_mk, Pool.map_phase_workers, hitems,
      List.length_cons]
    omega
  | finish _ hcollecting =>
    simp only [stepsLeft, hcollecting, Bool.toNat_true, Bool.toNat_false]
    omega
  | join hstage =>
    have hwait := stepsLeft_ofWait_le scan.pool.barrier.wait
    simp only [stepsLeft, hstage, Stage.stepsLeft_running]
    omega
  | wake hstage hnext =>
    simp only [stepsLeft, hstage, hstaged.poll_eq_done hstage hnext, Stage.ofWait, Stage.stepsLeft]
    omega

/-- A run is no longer than what was left of the scan when it began. -/
theorem follow?_length_le (hscan : Reachable config scan)
    (h : scan.follow? steps = some after) : steps.length + after.stepsLeft ≤ scan.stepsLeft := by
  induction steps generalizing scan with
  | nil =>
    cases h
    simp
  | cons step steps ih =>
    obtain ⟨next, hnext, hlater⟩ := follow?_cons.mp h
    have hless := hnext.stepsLeft_lt hscan.staged
    have hlength := ih (.step _ hscan hnext.step?) hlater
    rw [List.length_cons]
    omega

/-- The steps that are left at the start: nine for each host, six for each worker and a
few for the scan itself. -/
theorem stepsLeft_start (config : ScanConfig) :
    (Scan.start config).stepsLeft = 9 * config.hosts.length + 6 * config.workers + 7 := by
  simp only [stepsLeft, Scan.start, Pool.new, Pool.movesLeft, Feed.movesLeft, Stage.stepsLeft,
    WorkQueue.bounded, Channel.withSlots, List.foldr_nil, List.length_nil, Bool.not_false,
    Bool.toNat_true]
  omega

end Scan

end HeaderScan
