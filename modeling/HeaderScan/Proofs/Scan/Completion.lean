import HeaderScan.Proofs.Scan.Cancelled

/-!
# The count of the workers

The barrier of a scan counts the workers that were started and have not let go of
everything. All of them are counted when the feed begins to offer the first host, and
none when the scan returns. When the first host is put in some may have left already: a
cancellation can come between the look of the feed at the token and the moment at which
there is room. The collector may end before the count does: a worker gives back its share
of the channel first and its guard last.
-/

namespace HeaderScan

namespace Phase

variable {phase : Phase}

/-- The worker may still have its probe. It lets go of it between its share of the channel
and its guard. -/
def hasProbe : Phase → Bool
  | leaving _ _ => true
  | phase => phase.isWorking

/-- A worker holds its guard until its work has ended. -/
theorem hasGuard_of_exit? (h : phase.exit? = none) : phase.hasGuard = true := by
  cases phase <;> first | rfl | cases h

end Phase

namespace Scan

variable {config : ScanConfig} {scan after : Scan} {step : Step} {steps : List Step}

/-! ## Before the first host -/

/-- While no host was handed out no worker has panicked. -/
theorem Reachable.not_panicked (h : Reachable config scan)
    (hnone : scan.pool.ledger.handedOut = []) (w : Nat) :
    scan.pool.exit? w ≠ some .panicked := by
  intro hexit
  obtain ⟨_, host, -, hlost⟩ := h.partitioned.panicked w hexit
  have hperm := h.partitioned.handedOut
  rw [hnone] at hperm
  have hnil := (List.append_eq_nil_iff.mp (List.nil_perm.mp hperm)).2
  simp [hnil] at hlost

/-- While no host was put in, the token is not cancelled and the queue is open, every
worker that was started is counted. -/
theorem Reachable.outstanding_eq (h : Reachable config scan) (hnone : scan.enqueued = [])
    (htoken : scan.pool.isCancelled = false) (hopen : scan.feed.isDone = false) :
    scan.pool.barrier.outstanding = scan.pool.phases.length := by
  have hhandedOut := List.map_eq_nil_iff.mp (List.append_eq_nil_iff.mp hnone).1
  rw [h.provided.shared.guards, List.countP_eq_length]
  intro phase hmem
  obtain ⟨w, hphase⟩ := List.getElem?_of_mem hmem
  refine Phase.hasGuard_of_exit? ?_
  rw [← Pool.exit?_of_phase hphase]
  -- A worker ends by its host, by the token or by a closed queue, and there is none of these.
  cases hexit : scan.pool.exit? w with
  | none => rfl
  | some exit =>
    cases exit with
    | returned =>
      have hclosed := (h.ended.drained htoken w hexit).2
      rw [h.staged.isOpen, hopen] at hclosed
      cases hclosed
    | panicked => exact absurd hexit (h.not_panicked hhandedOut w)
    | aborted => exact absurd hexit (h.ended.not_aborted w)

/-- A feed that waits to put nothing in puts nothing in, and begins to offer a host only
when it looks and the token is not cancelled. -/
theorem Stepped.begins (h : Stepped scan step after) (hwaiting : scan.feed.waiting = []) :
    after.enqueued = scan.enqueued ∧
      (after.feed.waiting = [] ∨ step = .look ∧ scan.stage = .running ∧
        scan.pool.isCancelled = false ∧ scan.feed.isDone = false) := by
  cases h with
  | spawn | run | cancel | collect | finish | join | wake => exact ⟨rfl, .inl hwaiting⟩
  | worker hmoved => exact ⟨hmoved.taken, .inl hwaiting⟩
  | exhaust | heed | refuse | giveUp | close => exact ⟨rfl, .inl rfl⟩
  | look hstage hfeed htoken => exact ⟨rfl, .inr ⟨rfl, hstage, htoken, by rw [hfeed]; rfl⟩⟩
  | offer _ hfeed =>
    rw [hfeed] at hwaiting
    cases hwaiting

/-- A run that puts in the first host has begun to offer it when every configured worker
was counted. -/
theorem Reachable.exists_first (hscan : Reachable config scan) (hnone : scan.enqueued = [])
    (hwaiting : scan.feed.waiting = []) (hrun : scan.follow? steps = some after)
    (hafter : after.enqueued ≠ []) :
    ∃ earlier later first, steps = earlier ++ .look :: later ∧
      scan.follow? earlier = some first ∧ first.enqueued = [] ∧
      first.pool.barrier.outstanding = config.workers := by
  induction steps generalizing scan with
  | nil =>
    cases hrun
    exact absurd hnone hafter
  | cons step later ih =>
    obtain ⟨next, hnext, hlater⟩ := follow?_cons.mp hrun
    obtain ⟨hsame, hstill | ⟨rfl, hstage, htoken, hopen⟩⟩ := hnext.begins hwaiting
    · obtain ⟨earlier, rest, first, rfl, hfirst, hfull⟩ :=
        ih (.step _ hscan hnext.step?) (hsame.trans hnone) hstill hlater
      exact ⟨step :: earlier, rest, first, rfl, follow?_cons.mpr ⟨next, hnext, hfirst⟩, hfull⟩
    · refine ⟨[], later, scan, rfl, rfl, hnone, ?_⟩
      rw [hscan.outstanding_eq hnone htoken hopen]
      exact hscan.provided.length_phases (by rw [hstage]; rfl)

/-! ## The count -/

/-- A step adds a worker exactly when it starts one. -/
theorem Stepped.length_phases (h : Stepped scan step after) :
    after.pool.phases.length = scan.pool.phases.length + [step].count .spawn := by
  cases h with
  | spawn => simp
  | worker hmoved => simpa using hmoved.length_phases
  | run | cancel | exhaust | heed | look | offer | refuse | giveUp | close | collect | finish
  | join | wake =>
    rfl

/-- A run adds as many workers as it starts. -/
theorem follow?_length_phases (h : scan.follow? steps = some after) :
    after.pool.phases.length = scan.pool.phases.length + steps.count .spawn := by
  induction steps generalizing scan with
  | nil =>
    cases h
    rfl
  | cons step later ih =>
    obtain ⟨next, hnext, hlater⟩ := follow?_cons.mp h
    rw [ih hlater, hnext.length_phases, Nat.add_assoc, ← List.count_append]
    rfl

/-- What the barrier counts after these steps. -/
structure Counted (config : ScanConfig) (steps : List Step) (scan : Scan) : Prop where
  /-- Every start of a worker has registered it, and those that are missing are still to be
  started. -/
  registered : scan.pool.phases.length = steps.count .spawn ∧
    scan.pool.phases.length + scan.stage.unstarted = config.workers
  /-- The barrier counts the workers that have not let go of everything. -/
  outstanding : scan.pool.barrier.outstanding = scan.pool.phases.countP Phase.hasGuard
  /-- While nothing was put in, and nothing keeps the feed from it, every configured worker
  is counted or still to be started. -/
  waiting : scan.enqueued = [] → scan.pool.isCancelled = false → scan.feed.isDone = false →
    scan.pool.barrier.outstanding + scan.stage.unstarted = config.workers
  /-- Before the first host was put in the feed has looked at the token while every
  configured worker was counted. -/
  first : scan.enqueued ≠ [] → ∃ earlier later first, steps = earlier ++ .look :: later ∧
    (Scan.start config).follow? earlier = some first ∧ first.enqueued = [] ∧
    first.pool.barrier.outstanding = config.workers

/-- What is over when a scan has returned. -/
structure Completed (config : ScanConfig) (scan : Scan) : Prop where
  /-- No worker is counted. -/
  outstanding : scan.pool.barrier.outstanding = 0
  /-- Every configured worker has panicked, or has stopped by itself because of the
  cancellation or because the queue is drained. -/
  ended : ∀ w, w < config.workers → scan.pool.phases[w]? = some (.gone .panicked) ∨
    scan.pool.phases[w]? = some (.gone .returned) ∧
      (scan.pool.isCancelled = true ∨ scan.pool.IsDrained)
  /-- No probe is in flight. -/
  inFlight : scan.pool.inFlight = []
  /-- No worker has a share or its probe. -/
  shares : ∀ phase ∈ scan.pool.phases, phase.hasConsumer = false ∧ phase.hasSender = false ∧
    phase.hasProbe = false
  /-- Nobody can take from the queue or send to the channel. -/
  handles : scan.pool.queue.consumers = 0 ∧ scan.pool.results.senders = 0
  /-- The channel is empty. -/
  results : scan.pool.results.items = []

/-- After every run from the start the barrier counts right. -/
theorem counted_of_follow? (h : (Scan.start config).follow? steps = some scan) :
    scan.Counted config steps := by
  have hscan := Reachable.start.follow? h
  have hlength : scan.pool.phases.length = steps.count .spawn :=
    (follow?_length_phases h).trans (Nat.zero_add _)
  exact {
    registered := ⟨hlength, hscan.provided.workers⟩
    outstanding := hscan.provided.shared.guards
    waiting := fun hnone htoken hopen => by
      rw [hscan.outstanding_eq hnone htoken hopen, hscan.provided.workers]
    first := Reachable.start.exists_first rfl rfl h }

/-- When the scan returns there are only workers that have let go of everything. -/
theorem Reachable.gone_of_mem (h : Reachable config scan) (hreturned : scan.stage = .returned)
    {phase : Phase} (hmem : phase ∈ scan.pool.phases) : ∃ exit, phase = .gone exit := by
  obtain ⟨w, hphase⟩ := List.getElem?_of_mem hmem
  exact h.gone hreturned hphase

/-- A scan that has returned is complete. -/
theorem Reachable.completed (h : Reachable config scan) (hreturned : scan.stage = .returned) :
    scan.Completed config where
  outstanding := h.staged.returned hreturned
  ended w hw := by
    obtain ⟨phase, hphase⟩ := h.provided.exists_phase (by rw [hreturned]; rfl) hw
    obtain ⟨exit, rfl⟩ := h.gone hreturned hphase
    have hexit := Pool.exit?_of_phase hphase
    cases exit with
    | panicked => exact .inl hphase
    | aborted => exact absurd hexit (h.ended.not_aborted w)
    | returned =>
      refine .inr ⟨hphase, ?_⟩
      cases htoken : scan.pool.isCancelled with
      | true => exact .inl rfl
      | false => exact .inr (h.ended.drained htoken w hexit)
  inFlight := h.shown_returned hreturned fun _ => rfl
  shares phase hmem := by
    obtain ⟨exit, rfl⟩ := h.gone_of_mem hreturned hmem
    exact ⟨rfl, rfl, rfl⟩
  handles := by
    have hsenders := (h.staged.collected (h.staged.joined (by rw [hreturned]; rfl)).2).1
    refine ⟨?_, hsenders⟩
    have hspare : scan.stage.spare = 0 := by rw [hreturned]; rfl
    rw [h.provided.shared.consumers, hspare, Nat.add_zero, List.countP_eq_zero]
    intro phase hmem
    obtain ⟨exit, rfl⟩ := h.gone_of_mem hreturned hmem
    simp [Phase.hasConsumer, Phase.isWorking]
  results := h.items_returned hreturned

/-- In every scan that can come about, whatever was cancelled and whatever has panicked, the
barrier counts the workers that were started and have not let go of everything. Whichever run
leads to it, every configured worker was counted when the feed began to offer the first host,
and as long as nothing is cancelled they all are until that host is put into the queue. When the
scan returns none is counted: every worker is gone, no probe is in flight and the channel is
empty. -/
theorem completion_synchronised (h : Reachable config scan) :
    (∃ steps, (Scan.start config).follow? steps = some scan) ∧
      (∀ steps, (Scan.start config).follow? steps = some scan → scan.Counted config steps) ∧
      (scan.stage = .returned → scan.Completed config) :=
  ⟨h.exists_run, fun _ => counted_of_follow?, h.completed⟩

/-- The cases of a scan whose collector has ended while a guard is held, of the same scan
when it has returned, and of one whose only worker has panicked. -/
theorem completion_synchronised_awaiting :
    (∃ scan, (Scan.start twoHosts).follow? (interruptedRun ++ windingDown.take 11) = some scan ∧
      scan.isCollecting = false ∧ scan.pool.barrier.outstanding = 1 ∧
      scan.Counted twoHosts (interruptedRun ++ windingDown.take 11)) ∧
    (∃ scan, (Scan.start twoHosts).follow? (interruptedRun ++ windingDown) = some scan ∧
      scan.Completed twoHosts) ∧
    ∃ scan, (Scan.start twoHosts).follow? panickingRun = some scan ∧
      scan.Completed twoHosts := by
  refine ⟨?_, ?_, ?_⟩
  · obtain ⟨scan, hrun, hcollecting, hheld⟩ : ∃ scan,
        (Scan.start twoHosts).follow? (interruptedRun ++ windingDown.take 11) = some scan ∧
        scan.isCollecting = false ∧ scan.pool.barrier.outstanding = 1 := ⟨_, rfl, rfl, rfl⟩
    obtain ⟨-, hcounted, -⟩ := completion_synchronised (Reachable.start.follow? hrun)
    exact ⟨scan, hrun, hcollecting, hheld, hcounted _ hrun⟩
  · obtain ⟨scan, hrun, hreturned⟩ : ∃ scan,
        (Scan.start twoHosts).follow? (interruptedRun ++ windingDown) = some scan ∧
        scan.stage = .returned := ⟨_, rfl, rfl⟩
    obtain ⟨-, -, hcompleted⟩ := completion_synchronised (Reachable.start.follow? hrun)
    exact ⟨scan, hrun, hcompleted hreturned⟩
  · obtain ⟨scan, hrun, hreturned⟩ : ∃ scan,
        (Scan.start twoHosts).follow? panickingRun = some scan ∧ scan.stage = .returned :=
      ⟨_, rfl, rfl⟩
    obtain ⟨-, -, hcompleted⟩ := completion_synchronised (Reachable.start.follow? hrun)
    exact ⟨scan, hrun, hcompleted hreturned⟩

/-- The token is cancelled when the feed has looked at it, and the first of two workers leaves
before the feed has put in its host. -/
def overtakenRun : List Step :=
  [.spawn, .spawn, .run, .look, .cancel, .worker 0 .look, .worker 0 .letGo, .worker 0 .letGo,
    .worker 0 .letGo]

/-- Before the first host is put in not all workers need to be counted: here one of two has left
when the first host enters the queue. -/
theorem first_host_after_exit :
    ∃ scan after, (Scan.start pairOfWorkers).follow? overtakenRun = some scan ∧
      scan.step? .offer = some after ∧ scan.enqueued = [] ∧ after.enqueued = [⟨"a"⟩] ∧
      scan.pool.barrier.outstanding = 1 ∧ scan.pool.barrier.outstanding ≠ pairOfWorkers.workers :=
  ⟨_, _, rfl, rfl, rfl, rfl, rfl, by decide⟩

end Scan

end HeaderScan
