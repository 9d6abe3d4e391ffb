import HeaderScan.Proofs.Scan.Steps

/-!
# Runs of a scan

A run is a list of steps, each possible when its turn comes. A scan is reachable when
some run from the start leads to it, and the events that a run means to the pool lead
from pool to pool.
-/

namespace HeaderScan.Scan

/-- The scan after steps that are made one after the other. -/
def follow? (scan : Scan) : List Step → Option Scan
  | [] => some scan
  | step :: later => (scan.step? step).bind (·.follow? later)

variable {config : ScanConfig} {scan after : Scan} {step : Step} {steps : List Step}

/-- A run goes on after its first step. -/
theorem follow?_cons : scan.follow? (step :: steps) = some after ↔
    ∃ next, Stepped scan step next ∧ next.follow? steps = some after := by
  simp only [follow?, Option.bind_eq_some_iff, step?_eq_some_iff]

/-- A run is continued by one more step. -/
theorem follow?_concat {next : Scan} (h : scan.follow? steps = some after)
    (hnext : Stepped after step next) : scan.follow? (steps ++ [step]) = some next := by
  induction steps generalizing scan with
  | nil =>
    cases h
    exact follow?_cons.mpr ⟨next, hnext, rfl⟩
  | cons first later ih =>
    obtain ⟨middle, hfirst, hlater⟩ := follow?_cons.mp h
    exact follow?_cons.mpr ⟨middle, hfirst, ih hlater⟩

/-- What every step keeps is kept by a run. -/
theorem follow?_induction {motive : Scan → Prop}
    (hstep : ∀ {before after : Scan} {step : Step}, motive before →
      Stepped before step after → motive after)
    (hscan : motive scan) (h : scan.follow? steps = some after) : motive after := by
  induction steps generalizing scan with
  | nil =>
    cases h
    exact hscan
  | cons step steps ih =>
    obtain ⟨next, hnext, hlater⟩ := follow?_cons.mp h
    exact ih (hstep hscan hnext) hlater

/-- A run from a reachable scan leads to a reachable scan. -/
theorem Reachable.follow? (hscan : Reachable config scan)
    (h : scan.follow? steps = some after) : Reachable config after :=
  follow?_induction (fun hbefore hstep => .step _ hbefore hstep.step?) hscan h

/-- What holds at the start and is kept by every step between reachable scans holds in
every reachable scan. -/
theorem Reachable.induction {motive : Scan → Prop} (hstart : motive (.start config))
    (hstep : ∀ {before after : Scan} {step : Step}, Reachable config before → motive before →
      Stepped before step after → motive after)
    (h : Reachable config scan) : motive scan := by
  induction h with
  | start => exact hstart
  | step step hbefore hstep' ih => exact hstep hbefore ih (stepped_of_step? hstep')

/-- A run leads to every reachable scan. -/
theorem Reachable.exists_run (h : Reachable config scan) :
    ∃ steps, (Scan.start config).follow? steps = some scan := by
  refine h.induction (motive := fun scan => ∃ steps, (Scan.start config).follow? steps = some scan)
    ⟨[], rfl⟩ ?_
  rintro before after step - ⟨steps, hsteps⟩ hnext
  exact ⟨steps ++ [step], follow?_concat hsteps hnext⟩

/-- To the pool a step is an event or nothing. -/
theorem Stepped.pool (h : Stepped scan step after) :
    after.pool = scan.pool ∨ ∃ event, scan.pool.happen? event = some after.pool := by
  cases h with
  | spawn => exact .inr ⟨.spawn, rfl⟩
  | run => exact .inr ⟨.release, rfl⟩
  | @worker w move _ hmoved => exact .inr ⟨.move w move, hmoved.move?⟩
  | cancel => exact .inr ⟨.cancel, rfl⟩
  | @offer host _ _ _ hconsumers hroom =>
    exact .inr ⟨.offer host, by simp [Pool.happen?, WorkQueue.offer, hconsumers, hroom]⟩
  | close => exact .inr ⟨.close, rfl⟩
  | collect _ _ hitems =>
    exact .inr ⟨.receive, by simp [Pool.happen?, Channel.receive, hitems]⟩
  | exhaust | heed | look | refuse | giveUp | finish | join | wake => exact .inl rfl

/-- To the pool a run is a list of events. -/
theorem follow?_pool (h : scan.follow? steps = some after) :
    ∃ events, scan.pool.follow? events = some after.pool := by
  induction steps generalizing scan with
  | nil =>
    cases h
    exact ⟨[], rfl⟩
  | cons step steps ih =>
    obtain ⟨next, hnext, hlater⟩ := follow?_cons.mp h
    obtain ⟨events, hevents⟩ := ih hlater
    rcases hnext.pool with heq | ⟨event, hevent⟩
    · exact ⟨events, by rwa [← heq]⟩
    · exact ⟨event :: events, by simp [Pool.follow?, hevent, hevents]⟩

/-- The pool of a reachable scan is one that can come about. -/
theorem Reachable.pool (h : Reachable config scan) :
    Pool.Reachable config.queueCapacity config.workers scan.pool := by
  refine h.induction (motive := fun scan => Pool.Reachable _ _ scan.pool) .new ?_
  intro before after step _ hpool hstep
  rcases hstep.pool with heq | ⟨event, hevent⟩
  · rwa [heq]
  · exact .step event hpool hevent

end HeaderScan.Scan
