import HeaderScan.Proofs.Scan.Partition
import HeaderScan.Proofs.Scan.Termination
import HeaderScan.Queue.Session

/-!
# Scans do not get stuck

A scan is quiescent when it can go on only by a probe that ends or a cancellation from
outside. The queue is closed or has room when a worker waits for a host, and the
collector empties the channel when a worker waits to send, so in a quiescent scan every
worker is busy with a probe or gone; with nobody busy the scan has returned.
-/

namespace HeaderScan

/-- The step ends a probe that is in flight. -/
def Step.endsProbe : Step → Bool
  | .worker _ (.answer _) | .worker _ .panic => true
  | _ => false

namespace Scan

variable {config : ScanConfig} {scan after : Scan} {step : Step} {w : Nat}

/-- Nothing is possible but a cancellation and the end of a probe. -/
def Quiescent (scan : Scan) : Prop :=
  ∀ step after, scan.step? step = some after → step = .cancel ∨ step.endsProbe = true

/-- The steps that are not a worker's and do not come from outside. -/
def ownSteps : List Step :=
  [.spawn, .run, .look, .offer, .giveUp, .close, .collect, .join, .wake]

/-- The moves of a worker that do not end its probe. -/
def innerMoves : List Move := [.look, .heed, .fetch, .begin, .abandon, .send, .letGo]

/-- The steps of a scan that neither cancel it nor end a probe. -/
def innerSteps (scan : Scan) : List Step :=
  ownSteps ++ (List.range scan.pool.workers.length).flatMap fun w => innerMoves.map (.worker w)

/-- None of these steps is a cancellation or the end of a probe. -/
theorem not_ends_of_mem_innerSteps (hmem : step ∈ scan.innerSteps) :
    ¬ (step = .cancel ∨ step.endsProbe = true) := by
  rcases List.mem_append.mp hmem with hmem | hmem
  · have hown : ∀ step ∈ ownSteps, ¬ (step = .cancel ∨ step.endsProbe = true) := by decide
    exact hown step hmem
  · obtain ⟨w, -, hmem⟩ := List.mem_flatMap.mp hmem
    obtain ⟨move, hmem, rfl⟩ := List.mem_map.mp hmem
    cases move with
    | answer | panic => simp [innerMoves] at hmem
    | _ => simp [Step.endsProbe]

/-- Whether a scan is quiescent can be tested step by step. -/
theorem quiescent_iff :
    scan.Quiescent ↔ ∀ step ∈ scan.innerSteps, (scan.step? step).isNone = true := by
  constructor
  · intro h step hmem
    rw [Option.isNone_iff_eq_none, Option.eq_none_iff_forall_ne_some]
    intro after hstep
    exact not_ends_of_mem_innerSteps hmem (h step after hstep)
  · intro h step after hstep
    have hnone (hmem : step ∈ scan.innerSteps) : step = .cancel ∨ step.endsProbe = true := by
      have hstuck := h step hmem
      rw [hstep] at hstuck
      cases hstuck
    cases step with
    | cancel => exact .inl rfl
    | worker w move =>
      have hw : w < scan.pool.workers.length := by
        obtain ⟨pool, hmove, -⟩ := Option.map_eq_some_iff.mp hstep
        obtain ⟨worker, hworker, -⟩ := Option.bind_eq_some_iff.mp hmove
        exact (List.getElem?_eq_some_iff.mp hworker).1
      cases move with
      | answer | panic => exact .inr rfl
      | _ => exact hnone (by simp [innerSteps, innerMoves, hw])
    | _ => exact hnone (by simp [innerSteps, ownSteps])

instance : Decidable scan.Quiescent := decidable_of_iff _ quiescent_iff.symm

namespace Quiescent

/-- In a quiescent scan no other step is possible. -/
theorem not_stepped (h : scan.Quiescent) (hcancel : step ≠ .cancel)
    (hprobe : step.endsProbe = false) : ¬ Stepped scan step after := by
  intro hstep
  rcases h step after hstep.step? with heq | hends
  · exact hcancel heq
  · rw [hprobe] at hends
    cases hends

/-- All workers are started. -/
theorem not_starting (h : scan.Quiescent) (left : Nat) : scan.stage ≠ .starting left := by
  intro hstage
  cases left with
  | zero => exact h.not_stepped (by simp) rfl (.run hstage)
  | succ left => exact h.not_stepped (by simp) rfl (.spawn hstage)

/-- The scan is running, or feed and collector have ended. -/
theorem running_or_over (h : scan.Quiescent) :
    scan.stage = .running ∨ scan.stage.isOver = true := by
  cases hstage : scan.stage with
  | starting left => exact absurd hstage (h.not_starting left)
  | running => exact .inl rfl
  | awaiting | returned => exact .inr rfl

/-- The feed waits for room or has closed the queue. -/
theorem offering_or_done (h : scan.Quiescent) (hstage : scan.stage = .running) :
    (∃ host rest, scan.feed = .offering host rest) ∨ ∃ rest, scan.feed = .done rest := by
  cases hfeed : scan.feed with
  | looking rest =>
    exfalso
    cases rest with
    | nil => exact h.not_stepped (by simp) rfl (.exhaust hstage hfeed)
    | cons host rest =>
      cases htoken : scan.pool.isCancelled with
      | true => exact h.not_stepped (by simp) rfl (.heed hstage hfeed htoken)
      | false => exact h.not_stepped (by simp) rfl (.look hstage hfeed htoken)
  | offering host rest => exact .inl ⟨host, rest, rfl⟩
  | ending rest => exact absurd (.close hstage hfeed) (h.not_stepped (by simp) rfl)
  | done rest => exact .inr ⟨rest, rfl⟩

/-- The scan keeps no shares for itself. -/
theorem spare_eq (h : scan.Quiescent) : scan.stage.spare = 0 := by
  cases hstage : scan.stage with
  | starting left => exact absurd hstage (h.not_starting left)
  | _ => rfl

/-- No worker is still to be started. -/
theorem unstarted_eq (h : scan.Quiescent) : scan.stage.unstarted = 0 := by
  cases hstage : scan.stage with
  | starting left => exact absurd hstage (h.not_starting left)
  | _ => rfl

/-- No worker can move but by the end of its probe. -/
theorem not_moved {move : Move} {pool : Pool} (h : scan.Quiescent)
    (hprobe : (Step.worker w move).endsProbe = false) : ¬ scan.pool.Moved w move pool :=
  fun hmoved => h.not_stepped (by simp) hprobe (.worker hmoved)

/-- The channel is empty. -/
theorem items_eq (h : scan.Quiescent) (hstaged : scan.Staged config) :
    scan.pool.results.items = [] := by
  cases hcollecting : scan.isCollecting with
  | false => exact (hstaged.collected hcollecting).2
  | true =>
    cases hitems : scan.pool.results.items with
    | nil => rfl
    | cons first rest =>
      exfalso
      rcases h.running_or_over with hstage | hover
      · exact h.not_stepped (by simp) rfl (.collect hstage hcollecting hitems)
      · cases hcollecting.symm.trans (hstaged.joined hover).2

/-- No worker has a response to send: the first of the line could send its own. -/
theorem not_sending (h : scan.Quiescent) (hprovided : scan.Provided config)
    (hstaged : scan.Staged config) (response : Response) :
    scan.pool.phases[w]? ≠ some (.sending response) := by
  intro hphase
  obtain ⟨first, rest, hline⟩ :=
    List.exists_cons_of_ne_nil (List.ne_nil_of_mem ((hprovided.lined.mem_iff w).mpr ⟨_, hphase⟩))
  obtain ⟨response, hfirst⟩ := hprovided.lined.first_sending hline
  refine h.not_moved rfl (.send hfirst hprovided.hasReceiver ?_)
  have hworkers := config.workers_pos
  rw [hline, List.idxOf_cons_self, Channel.free, h.items_eq hstaged, hprovided.slots]
  exact hworkers

/-- No worker waits for a host: either it gets one or it learns that none will come. -/
theorem not_listening (h : scan.Quiescent) (hprovided : scan.Provided config)
    (hstaged : scan.Staged config) : scan.pool.phases[w]? ≠ some .listening := by
  intro hphase
  have hitems : scan.pool.queue.items = [] := by
    cases hitems : scan.pool.queue.items with
    | nil => rfl
    | cons host rest => exact absurd (.take hphase hitems) (h.not_moved rfl)
  have hopen : scan.pool.queue.isOpen = true := by
    by_contra hclosed
    exact h.not_moved rfl (.finish hphase hitems (by simpa using hclosed))
  have hdone : scan.feed.isDone = false := by simpa [hopen] using hstaged.isOpen
  have hstage : scan.stage = .running := by
    rcases h.running_or_over with hstage | hover
    · exact hstage
    · cases (hstaged.joined hover).1.symm.trans hdone
  rcases h.offering_or_done hstage with ⟨host, rest, hfeed⟩ | ⟨rest, hfeed⟩
  · refine h.not_stepped (by simp) rfl (.offer hstage hfeed ?_ ?_)
    · intro hconsumers
      cases hprovided.shared.not_hasConsumer hconsumers hphase
    · rw [hitems, hprovided.capacity, List.length_nil]
      omega
  · rw [hfeed] at hdone
    cases hdone

/-- Every worker is busy with a probe or gone. -/
theorem probing_or_gone (h : scan.Quiescent) (hscan : Reachable config scan) {phase : Phase}
    (hphase : scan.pool.phases[w]? = some phase) :
    (∃ host, phase = .probing host) ∨ ∃ exit, phase = .gone exit := by
  cases phase with
  | idle =>
    exfalso
    cases htoken : scan.pool.isCancelled with
    | true => exact h.not_moved rfl (.retire hphase htoken)
    | false => exact h.not_moved rfl (.listen hphase htoken)
  | listening => exact absurd hphase (h.not_listening hscan.provided hscan.staged)
  | holding host =>
    exfalso
    cases htoken : scan.pool.isCancelled with
    | true => exact h.not_moved rfl (.giveUp hphase htoken)
    | false => exact h.not_moved rfl (.call hphase htoken)
  | probing host => exact .inl ⟨host, rfl⟩
  | sending response => exact absurd hphase (h.not_sending hscan.provided hscan.staged response)
  | leaving exit share => exact absurd (.letGo hphase) (h.not_moved rfl)
  | gone exit => exact .inr ⟨exit, rfl⟩

/-- When no probe is in flight every worker is gone. -/
theorem gone (h : scan.Quiescent) (hscan : Reachable config scan)
    (hidle : scan.pool.inFlight = []) {phase : Phase} (hmem : phase ∈ scan.pool.phases) :
    ∃ exit, phase = .gone exit := by
  obtain ⟨w, hphase⟩ := List.getElem?_of_mem hmem
  rcases h.probing_or_gone hscan hphase with ⟨host, rfl⟩ | hgone
  · have hentry := Pool.entriesOf_shown scan.pool Phase.inFlight? w
    rw [← Pool.inFlight, hidle, hphase] at hentry
    cases hentry
  · exact hgone

/-- When every worker is gone, no share that is counted is left. -/
theorem countP_eq_zero {held : Phase → Bool} (hheld : ∀ exit, held (.gone exit) = false)
    (hgone : ∀ phase ∈ scan.pool.phases, ∃ exit, phase = .gone exit) :
    scan.pool.phases.countP held = 0 := by
  apply List.countP_eq_zero.mpr
  intro phase hmem
  obtain ⟨exit, rfl⟩ := hgone phase hmem
  simp [hheld]

/-- A quiescent scan without a probe in flight has returned. -/
theorem returned (h : scan.Quiescent) (hscan : Reachable config scan)
    (hidle : scan.pool.inFlight = []) : scan.stage = .returned := by
  have hgone : ∀ phase ∈ scan.pool.phases, ∃ exit, phase = .gone exit :=
    fun _ hmem => h.gone hscan hidle hmem
  have hconsumers : scan.pool.queue.consumers = 0 := by
    rw [hscan.provided.shared.consumers, h.spare_eq, countP_eq_zero (fun _ => rfl) hgone]
  have hsenders : scan.pool.results.senders = 0 := by
    rw [hscan.provided.shared.senders, h.spare_eq, countP_eq_zero (fun _ => rfl) hgone]
  have hguards : scan.pool.barrier.outstanding = 0 := by
    rw [hscan.provided.shared.guards, countP_eq_zero (fun _ => rfl) hgone]
  cases hstage : scan.stage with
  | starting left => exact absurd hstage (h.not_starting left)
  | returned => rfl
  | awaiting wait =>
    -- The last guard has notified the wait.
    exfalso
    obtain ⟨seen, rfl, hseen, -⟩ := hscan.staged.awaiting wait hstage
    refine h.not_stepped (by simp) rfl (.wake hstage ?_)
    simp [Barrier.poll, hseen hguards, Barrier.look, hguards]
  | running =>
    exfalso
    rcases h.offering_or_done hstage with ⟨host, rest, hfeed⟩ | ⟨rest, hfeed⟩
    · exact h.not_stepped (by simp) rfl (.refuse hstage hfeed hconsumers)
    · cases hcollecting : scan.isCollecting with
      | true =>
        have hitems := h.items_eq hscan.staged
        exact h.not_stepped (by simp) rfl (.finish hstage hcollecting hitems hsenders)
      | false =>
        have hdone : scan.feed.isDone = true := by rw [hfeed]; rfl
        exact h.not_stepped (by simp) rfl (.join hstage hdone hcollecting)

/-- When fewer probes are in flight than there are workers, some worker is gone. -/
theorem exists_gone (h : scan.Quiescent) (hscan : Reachable config scan)
    (hfew : scan.pool.inFlight.length < config.workers) :
    ∃ (w : Nat) (exit : Exit), scan.pool.phases[w]? = some (.gone exit) := by
  by_contra hnone
  have hall : ∀ phase ∈ scan.pool.phases, (phase.inFlight?).isSome = true := by
    intro phase hmem
    obtain ⟨w, hphase⟩ := List.getElem?_of_mem hmem
    rcases h.probing_or_gone hscan hphase with ⟨host, rfl⟩ | ⟨exit, rfl⟩
    · rfl
    · exact absurd ⟨w, exit, hphase⟩ hnone
  have hcount := List.countP_eq_length.mpr hall
  rw [Pool.inFlight, Pool.length_shown, hcount, hscan.provided.length_phases h.unstarted_eq] at hfew
  omega

/-- What the workers have in their hands are the hosts whose probes are in flight. -/
theorem hands_eq (h : scan.Quiescent) (hscan : Reachable config scan) :
    scan.pool.hands.Perm scan.pool.inFlight := by
  apply perm_of_entriesOf
  intro w
  rw [Pool.hands, Pool.inFlight, Pool.entriesOf_shown, Pool.entriesOf_shown]
  cases hphase : scan.pool.phases[w]? with
  | none => rfl
  | some phase =>
    rcases h.probing_or_gone hscan hphase with ⟨host, rfl⟩ | ⟨exit, rfl⟩ <;> rfl

/-- While a worker is not busy and none has panicked, every host is reported but those
whose probes are in flight. -/
theorem hosts_perm (h : scan.Quiescent) (hscan : Reachable config scan)
    (htoken : scan.pool.isCancelled = false)
    (hfew : scan.pool.inFlight.length < config.workers)
    (hpanic : ∀ w, scan.pool.exit? w ≠ some .panicked) :
    config.hosts.Perm
      (scan.responses.map (·.host) ++ scan.pool.inFlight.map Prod.snd) := by
  obtain ⟨w, exit, hphase⟩ := h.exists_gone hscan hfew
  have hexit : scan.pool.exit? w = some exit := Pool.exit?_of_phase hphase
  have hreturned := hscan.ended.eq_returned hexit (hpanic w)
  -- A worker that stopped by itself found the queue closed and drained.
  have hdrained := hscan.ended.drained htoken w (hreturned ▸ hexit)
  have hdone : scan.feed.isDone = true := by simpa [hdrained.2] using hscan.staged.isOpen
  have hremaining := hscan.ended.remaining_eq_nil hdone htoken config.workers_pos (hpanic 0)
  have hlost : scan.pool.ledger.lost = [] :=
    eq_nil_of_entriesOf fun v => hscan.lost (hpanic v)
  have hperm := hscan.partitioned.handedOut
  rw [h.items_eq hscan.staged, hlost] at hperm
  have hhosts := (hperm.trans (by simpa using (h.hands_eq hscan).append_left _)).map Prod.snd
  rw [hscan.ordered.hosts, hdrained.1, hremaining]
  simpa [responses, Delivery.place, Function.comp_def] using hhosts

end Quiescent

/-- A scan goes on, without a cancellation and without the end of a probe, until it is
quiescent. -/
theorem Reachable.exists_quiescent (hscan : Reachable config scan) :
    ∃ steps after, scan.follow? steps = some after ∧ after.Quiescent ∧
      ∀ step ∈ steps, step ≠ .cancel ∧ step.endsProbe = false := by
  induction hleft : scan.stepsLeft using Nat.strongRecOn generalizing scan with
  | ind left ih =>
    by_cases hquiet : scan.Quiescent
    · exact ⟨[], scan, rfl, hquiet, by simp⟩
    · simp only [Quiescent, not_forall, not_or] at hquiet
      obtain ⟨step, next, hstep, hcancel, hprobe⟩ := hquiet
      have hnext := stepped_of_step? hstep
      have hless := hnext.stepsLeft_lt hscan.staged
      obtain ⟨steps, after, hsteps, hafter, hall⟩ :=
        ih next.stepsLeft (by omega) (.step step hscan hstep) rfl
      refine ⟨step :: steps, after, follow?_cons.mpr ⟨next, hnext, hsteps⟩, hafter, ?_⟩
      intro other hmem
      rcases List.mem_cons.mp hmem with rfl | hmem
      · exact ⟨hcancel, by simpa using hprobe⟩
      · exact hall other hmem

/-! ## When every worker has panicked -/

/-- No probe is in flight when every worker has come to its end. -/
theorem Reachable.inFlight_eq_nil (hscan : Reachable config scan)
    (hexit : ∀ w, w < config.workers → ∃ exit, scan.pool.exit? w = some exit) :
    scan.pool.inFlight = [] := by
  apply eq_nil_of_entriesOf
  intro w
  rw [Pool.inFlight, Pool.entriesOf_shown]
  cases hphase : scan.pool.phases[w]? with
  | none => rfl
  | some phase =>
    have hlength := (List.getElem?_eq_some_iff.mp hphase).1
    have hworkers := hscan.provided.workers
    obtain ⟨exit, hend⟩ := hexit w (by omega)
    rw [Pool.exit?_of_phase hphase] at hend
    cases phase <;> first | rfl | cases hend

/-- When no worker has a share of the queue any more, the host that is offered is refused
by name, and the feed ends. -/
theorem Reachable.refused (hscan : Reachable config scan) {host : Host} {rest : List Host}
    (hfeed : scan.feed = .offering host rest)
    (hshares : ∀ phase ∈ scan.pool.phases, phase.hasConsumer = false) :
    scan.pool.queue.attempt (.enqueue host) =
        some (.failed (.queueClosed host.text), scan.pool.queue) ∧
      scan.step? .offer = some { scan with feed := .ending (host :: rest) } := by
  have hstage : scan.stage = .running := by
    cases hstage : scan.stage with
    | running => rfl
    | starting left => cases (hscan.staged.starting left hstage).1.symm.trans hfeed
    | awaiting | returned =>
      have hover := (hscan.staged.joined (by rw [hstage]; rfl)).1
      rw [hfeed] at hover
      cases hover
  have hconsumers : scan.pool.queue.consumers = 0 := by
    have hcount : scan.pool.phases.countP Phase.hasConsumer = 0 := by
      apply List.countP_eq_zero.mpr
      intro phase hmem
      simp [hshares phase hmem]
    rw [hscan.provided.shared.consumers, hcount, hstage]
    rfl
  refine ⟨?_, (Stepped.refuse hstage hfeed hconsumers).step?⟩
  simp [WorkQueue.attempt, WorkQueue.offer, hconsumers]

/-- When every worker has panicked the scan returns all the same. -/
theorem Reachable.returns_of_panicked (hscan : Reachable config scan)
    (hpanic : ∀ w, w < config.workers → scan.pool.exit? w = some .panicked) :
    ∃ steps after, scan.follow? steps = some after ∧ .cancel ∉ steps ∧
      after.stage = .returned := by
  obtain ⟨steps, after, hsteps, hquiet, hall⟩ := hscan.exists_quiescent
  have hafter := hscan.follow? hsteps
  have hidle := hafter.inFlight_eq_nil fun w hw =>
    ⟨.panicked, follow?_exit? hscan hsteps (hpanic w hw)⟩
  exact ⟨steps, after, hsteps, fun hmem => (hall _ hmem).1 rfl, hquiet.returned hafter hidle⟩

/-- A scan never gets stuck and never runs for ever. It returns when nothing is possible
and no probe is in flight; while not all workers are busy with probes and none has
panicked, only hosts whose probes are in flight are kept from the report; and hosts and
workers bound the number of steps. When all workers have panicked the next host is
refused, and the scan returns. -/
theorem never_stuck (config : ScanConfig) :
    (∀ {scan : Scan}, Reachable config scan → scan.Quiescent → scan.pool.inFlight = [] →
      scan.stage = .returned) ∧
    (∀ {scan : Scan}, Reachable config scan → scan.pool.isCancelled = false →
      scan.Quiescent → scan.pool.inFlight.length < config.workers →
      (∀ w, scan.pool.exit? w ≠ some .panicked) →
      config.hosts.Perm
        (scan.responses.map (·.host) ++ scan.pool.inFlight.map Prod.snd)) ∧
    (∀ {steps : List Step} {scan : Scan}, (Scan.start config).follow? steps = some scan →
      steps.length ≤ 9 * config.hosts.length + 6 * config.workers + 7) ∧
    ∀ {scan : Scan}, Reachable config scan →
      (∀ w, w < config.workers → scan.pool.exit? w = some .panicked) →
      (∀ host rest, scan.feed = .offering host rest →
        (∀ phase ∈ scan.pool.phases, phase.hasConsumer = false) →
        scan.pool.queue.attempt (.enqueue host) =
            some (.failed (.queueClosed host.text), scan.pool.queue) ∧
          scan.step? .offer = some { scan with feed := .ending (host :: rest) }) ∧
      ∃ steps after, scan.follow? steps = some after ∧ .cancel ∉ steps ∧
        after.stage = .returned := by
  refine ⟨fun hscan hquiet => hquiet.returned hscan,
    fun hscan htoken hquiet => hquiet.hosts_perm hscan htoken, ?_, ?_⟩
  · intro steps scan hsteps
    have hlength := follow?_length_le .start hsteps
    rw [stepsLeft_start] at hlength
    omega
  · intro scan hscan hpanic
    exact ⟨fun host rest hfeed => hscan.refused hfeed, hscan.returns_of_panicked hpanic⟩

/-- The second worker never hears from the first host; the first worker probes the other
and leaves. -/
def stalledRun : List Step :=
  [.spawn, .spawn, .run, .look, .offer, .look, .offer, .look, .close, .worker 1 .look,
    .worker 1 .fetch, .worker 1 .begin, .worker 0 .look, .worker 0 .fetch, .worker 0 .begin,
    .worker 0 (.answer .timeout), .worker 0 .send, .collect, .worker 0 .look,
    .worker 0 .fetch, .worker 0 .letGo, .worker 0 .letGo, .worker 0 .letGo]

/-- The second worker hears from the first host after all. -/
def answeredRun : List Step :=
  stalledRun ++
    [.worker 1 (.answer .timeout), .worker 1 .send, .collect, .worker 1 .look, .worker 1 .fetch,
      .worker 1 .letGo, .worker 1 .letGo, .worker 1 .letGo, .collect, .join]

/-- The cases of a probe that stalls, of one that answers after all, and of a panic of the
only worker. -/
theorem never_stuck_stalled :
    (∃ scan, (Scan.start pairOfWorkers).follow? stalledRun = some scan ∧
      pairOfWorkers.hosts.Perm
        (scan.responses.map (·.host) ++ scan.pool.inFlight.map Prod.snd)) ∧
    (∃ scan, (Scan.start pairOfWorkers).follow? answeredRun = some scan ∧
      scan.stage = .returned) ∧
    stalledRun.length ≤ 9 * pairOfWorkers.hosts.length + 6 * pairOfWorkers.workers + 7 ∧
    ∃ scan, (Scan.start twoHosts).follow? (panickingRun.take 12) = some scan ∧
      scan.pool.queue.attempt (.enqueue ⟨"b"⟩) =
        some (.failed (.queueClosed "b"), scan.pool.queue) ∧
      ∃ steps after, scan.follow? steps = some after ∧ .cancel ∉ steps ∧
        after.stage = .returned := by
  obtain ⟨hreturned, hstalled, hlength, -⟩ := never_stuck pairOfWorkers
  obtain ⟨-, -, -, hpanicked⟩ := never_stuck twoHosts
  refine ⟨?_, ?_, ?_, ?_⟩
  · obtain ⟨scan, hrun, htoken, hquiet, hfew, hpanic⟩ : ∃ scan,
        (Scan.start pairOfWorkers).follow? stalledRun = some scan ∧
        scan.pool.isCancelled = false ∧ scan.Quiescent ∧
        scan.pool.inFlight.length < pairOfWorkers.workers ∧
        scan.pool.phases = [.gone .returned, .probing ⟨"a"⟩] :=
      ⟨_, rfl, rfl, by decide, by decide, rfl⟩
    refine ⟨scan, hrun, hstalled (Reachable.start.follow? hrun) htoken hquiet hfew fun w => ?_⟩
    match w with
    | 0 | 1 => simp [Pool.exit?, hpanic, Phase.exit?]
    | w + 2 => simp [Pool.exit?, hpanic]
  · obtain ⟨scan, hrun, hquiet, hidle⟩ : ∃ scan,
        (Scan.start pairOfWorkers).follow? answeredRun = some scan ∧
        scan.Quiescent ∧ scan.pool.inFlight = [] :=
      ⟨_, rfl, by decide, by decide⟩
    exact ⟨scan, hrun, hreturned (Reachable.start.follow? hrun) hquiet hidle⟩
  · exact hlength (rfl : (Scan.start pairOfWorkers).follow? stalledRun = some _)
  · obtain ⟨scan, hrun, hfeed, hphases⟩ : ∃ scan,
        (Scan.start twoHosts).follow? (panickingRun.take 12) = some scan ∧
        scan.feed = .offering ⟨"b"⟩ [] ∧ scan.pool.phases = [.gone .panicked] :=
      ⟨_, rfl, rfl, rfl⟩
    obtain ⟨hrefused, hreturns⟩ := hpanicked (Reachable.start.follow? hrun) fun w hw => by
      have hzero : w = 0 := Nat.lt_one_iff.mp hw
      simp [Pool.exit?, hphases, hzero, Phase.exit?]
    exact ⟨scan, hrun, (hrefused _ _ hfeed (by simp [hphases, Phase.hasConsumer,
      Phase.isWorking])).1, hreturns⟩

end Scan

end HeaderScan
