import HeaderScan.Proofs.Scan.Partition

/-!
# Scans without a disturbance

When nobody cancels and no probe panics, a scan probes every position of its list once
and reports the answer once. Which worker gets which position, and when, depends on the
order of the steps; what is reported does not, so every such scan amounts to probing the
hosts one after the other.
-/

namespace HeaderScan

/-- The worker and the status of its response. -/
def Delivery.answer (delivery : Delivery) : Nat × Status :=
  (delivery.worker, delivery.response.status)

namespace Scan

variable {config : ScanConfig} {steps : List Step} {step : Step} {scan after : Scan}

/-! ## What the probes answer -/

/-- The answers among some steps, each with the worker whose probe gave it. -/
def answers (steps : List Step) : List (Nat × Status) :=
  steps.filterMap fun
    | .worker w (.answer status) => some (w, status)
    | _ => none

/-- A step is an answer exactly when one is written down. -/
theorem Stepped.answered (h : Stepped scan step after) :
    after.pool.ledger.answered.map Delivery.answer =
      scan.pool.ledger.answered.map Delivery.answer ++ answers [step] := by
  cases h with
  | worker hmoved =>
    cases hmoved with
    | answer => simp [Pool.takeAnswer, Pool.respond, Delivery.answer, answers]
    | @letGo _ share => cases share <;> exact (List.append_nil _).symm
    | _ => exact (List.append_nil _).symm
  | _ => exact (List.append_nil _).symm

/-- The answers of a run are written down in their order. -/
theorem follow?_answered (h : scan.follow? steps = some after) :
    after.pool.ledger.answered.map Delivery.answer =
      scan.pool.ledger.answered.map Delivery.answer ++ answers steps := by
  induction steps generalizing scan with
  | nil =>
    cases h
    exact (List.append_nil _).symm
  | cons step later ih =>
    obtain ⟨next, hnext, hlater⟩ := follow?_cons.mp h
    have hsplit : answers (step :: later) = answers [step] ++ answers later :=
      List.filterMap_append (l := [step])
    rw [ih hlater, hnext.answered, hsplit, List.append_assoc]

/-! ## What is reported -/

/-- A run from the start to the return, without a cancellation and without a panic. -/
structure Undisturbed (config : ScanConfig) (steps : List Step) (scan : Scan) : Prop where
  /-- The steps lead from the start to this scan. -/
  run : (Scan.start config).follow? steps = some scan
  /-- The scan has returned. -/
  returned : scan.stage = .returned
  /-- Nobody cancels. -/
  not_cancelled : .cancel ∉ steps
  /-- No probe panics. -/
  not_panicked : ∀ w, .worker w .panic ∉ steps

/-- Every probe that was called answered as this function says. -/
def AnsweredBy (probe : Host → Status) (scan : Scan) : Prop :=
  ∀ delivery ∈ scan.pool.ledger.answered,
    delivery.response.status = probe delivery.response.host

instance (probe : Host → Status) (scan : Scan) : Decidable (scan.AnsweredBy probe) :=
  inferInstanceAs (Decidable (∀ delivery ∈ scan.pool.ledger.answered,
    delivery.response.status = probe delivery.response.host))

/-- The responses of probing the hosts one after the other. -/
def sequential (probe : Host → Status) (hosts : List Host) : List Response :=
  hosts.map fun host => ⟨host, probe host⟩

/-- A worker that has not panicked has stopped by itself when the scan returns. -/
theorem Reachable.exit_eq_returned (h : Reachable config scan) (hreturned : scan.stage = .returned)
    {w : Nat} (hw : w < config.workers) (hpanic : scan.pool.exit? w ≠ some .panicked) :
    scan.pool.exit? w = some .returned := by
  obtain ⟨phase, hphase⟩ := h.provided.exists_phase (by rw [hreturned]; rfl) hw
  obtain ⟨exit, rfl⟩ := h.gone hreturned hphase
  have hexit : scan.pool.exit? w = some exit := Pool.exit?_of_phase hphase
  rw [hexit, h.ended.eq_returned hexit hpanic]

/-- The whole list is handed out when the scan returns, unless it was cancelled or the first
worker has panicked. -/
theorem Reachable.map_handedOut (h : Reachable config scan) (hreturned : scan.stage = .returned)
    (htoken : scan.pool.isCancelled = false) (hpanic : scan.pool.exit? 0 ≠ some .panicked) :
    scan.pool.ledger.handedOut.map Prod.snd = config.hosts := by
  have hexit := h.exit_eq_returned hreturned config.workers_pos hpanic
  have hitems : scan.pool.queue.items = [] := (h.ended.drained htoken 0 hexit).1
  have hdone := (h.staged.joined (by rw [hreturned]; rfl)).1
  have hremaining := h.ended.remaining_eq_nil hdone htoken config.workers_pos hpanic
  rw [h.ordered.hosts, hitems, hremaining]
  simp

namespace Undisturbed

/-- Such a run leads to a scan that can come about. -/
theorem reachable (h : Undisturbed config steps scan) : Reachable config scan :=
  Reachable.follow? .start h.run

/-- The token is not cancelled at the end. -/
theorem token (h : Undisturbed config steps scan) : scan.pool.isCancelled = false :=
  follow?_not_cancelled h.run h.not_cancelled

/-- No worker has panicked at the end. -/
theorem exit_ne_panicked (h : Undisturbed config steps scan) (w : Nat) :
    scan.pool.exit? w ≠ some .panicked :=
  follow?_not_panicked .start h.run h.not_panicked (by simp [Scan.start, Pool.new, Pool.exit?,
    Pool.phases])

/-- The whole list is handed out. -/
theorem map_handedOut (h : Undisturbed config steps scan) :
    scan.pool.ledger.handedOut.map Prod.snd = config.hosts :=
  h.reachable.map_handedOut h.returned h.token (h.exit_ne_panicked 0)

/-- Every worker has called the probe of each host that it has taken. -/
theorem entriesOf_called (h : Undisturbed config steps scan) (w : Nat) :
    entriesOf w scan.pool.ledger.called = entriesOf w scan.pool.ledger.handedOut := by
  have hsound := (h.reachable.pool.sound w).called h.token
    (.inl (h.reachable.lost (h.exit_ne_panicked w)))
  have hheld : scan.pool.phases[w]?.bind Phase.held? = none :=
    h.reachable.view_returned h.returned (fun _ => rfl) w
  simp only [Pool.history, hheld, Option.toList_none, List.append_nil] at hsound
  exact hsound.symm

/-- Every answer of a worker is reported, and nothing else. -/
theorem entriesOf_reported (h : Undisturbed config steps scan) (w : Nat) :
    entriesOf w (scan.reported.map Delivery.entry) =
      entriesOf w (scan.pool.ledger.answered.map Delivery.entry) := by
  have hanswered := (h.reachable.pool.sound w).answered h.token
  have hmade := h.reachable.entriesOf_made w
  have hresponses : scan.pool.shown Phase.response? = [] :=
    h.reachable.shown_returned h.returned fun _ => rfl
  simp only [Pool.history] at hanswered
  rw [h.reachable.items_returned h.returned, hresponses, hanswered] at hmade
  simpa using hmade.symm

/-- The responses of a worker are about the hosts that it has taken, in order. -/
theorem map_host_reported (h : Undisturbed config steps scan) (w : Nat) :
    (entriesOf w (scan.reported.map Delivery.entry)).map Response.host =
      entriesOf w scan.pool.ledger.handedOut := by
  have hhands : scan.pool.hands = [] := h.reachable.shown_returned h.returned fun _ => rfl
  rw [h.reachable.order, h.reachable.items_returned h.returned, hhands,
    h.reachable.lost (h.exit_ne_panicked w), ← Delivery.entriesOf_place]
  simp

/-- To each position of the list belongs one delivery: the host there, the worker that
took it, and the answer of its probe. These are the probes that were called, the answers
that were given and the responses that were reported. -/
theorem exists_deliveries (h : Undisturbed config steps scan) :
    ∃ deliveries : List Delivery,
      deliveries.map (·.response.host) = config.hosts ∧
      deliveries.map Delivery.place = scan.pool.ledger.handedOut ∧
      scan.pool.ledger.called.Perm (deliveries.map Delivery.place) ∧
      scan.pool.ledger.answered.Perm deliveries ∧
      scan.reported.Perm deliveries := by
  obtain ⟨woven, hplaces, hentries⟩ := exists_woven Response.host scan.pool.ledger.handedOut
    (fun w => entriesOf w (scan.reported.map Delivery.entry)) h.map_host_reported
  have hdeliveries : (woven.map fun entry => Delivery.mk entry.1 entry.2).map Delivery.entry =
      woven := by
    simp [Function.comp_def]
  refine ⟨woven.map fun entry => ⟨entry.1, entry.2⟩, ?_, ?_, ?_, ?_, ?_⟩
  · rw [← h.map_handedOut, ← hplaces]
    simp
  · rw [← hplaces]
    simp [Function.comp_def]
  · apply perm_of_entriesOf
    intro w
    rw [h.entriesOf_called, ← hplaces]
    simp [Function.comp_def]
  · apply Delivery.perm_of_entries
    rw [hdeliveries]
    apply perm_of_entriesOf
    intro w
    rw [hentries, h.entriesOf_reported]
  · apply Delivery.perm_of_entries
    rw [hdeliveries]
    apply perm_of_entriesOf
    intro w
    rw [hentries]

/-- When the probe is a function of the host, the responses are those of probing the
hosts one after the other. -/
theorem responses_perm (h : Undisturbed config steps scan) {probe : Host → Status}
    (hprobe : scan.AnsweredBy probe) :
    scan.responses.Perm (sequential probe config.hosts) := by
  obtain ⟨deliveries, hhosts, -, -, hanswered, hreported⟩ := h.exists_deliveries
  have hresponses : deliveries.map (·.response) = sequential probe config.hosts := by
    rw [← hhosts, sequential, List.map_map]
    apply List.map_congr_left
    intro delivery hmem
    have hstatus := hprobe delivery (hanswered.mem_iff.mpr hmem)
    simp [← hstatus]
  rw [← hresponses]
  exact hreported.map _

end Undisturbed

/-- A scan that returns undisturbed has called the probe once for every position of the
list and has reported each answer once; the answers are those that its probes gave, and the
summary says how many there were of each kind. With a probe that is a function of the host it
reports what probing one host after the other gives, and so does every other such scan of the
list, with however many workers. -/
theorem every_host_reported_once (h : Undisturbed config steps scan) :
    (∃ deliveries : List Delivery,
      deliveries.map (·.response.host) = config.hosts ∧
      deliveries.map Delivery.place = scan.pool.ledger.handedOut ∧
      scan.pool.ledger.called.Perm (deliveries.map Delivery.place) ∧
      scan.pool.ledger.answered.Perm deliveries ∧
      scan.reported.Perm deliveries) ∧
    scan.pool.ledger.answered.map Delivery.answer = answers steps ∧
    scan.summary.Counts scan.responses ∧
    scan.summary = Summary.tally scan.responses ∧
    scan.summary.total = config.hosts.length ∧
    ∀ probe : Host → Status, scan.AnsweredBy probe →
      scan.responses.Perm (sequential probe config.hosts) ∧
      scan.summary.Counts (sequential probe config.hosts) ∧
      scan.summary = Summary.tally (sequential probe config.hosts) ∧
      ∀ {other : ScanConfig} {moreSteps : List Step} {another : Scan},
        Undisturbed other moreSteps another → other.hosts = config.hosts →
        another.AnsweredBy probe →
        scan.responses.Perm another.responses ∧ scan.summary = another.summary := by
  have hsummary := h.reachable.ordered.summary
  refine ⟨h.exists_deliveries, follow?_answered h.run, hsummary ▸ Summary.counts_tally _,
    hsummary, ?_, fun probe hprobe => ?_⟩
  · obtain ⟨deliveries, hhosts, -, -, -, hreported⟩ := h.exists_deliveries
    rw [hsummary, Summary.tally_eq, ← hhosts, List.length_map, ← hreported.length_eq]
    simp [responses]
  · have hperm := h.responses_perm hprobe
    have htally := hsummary.trans (Summary.tally_perm hperm)
    refine ⟨hperm, htally ▸ Summary.counts_tally _, htally, ?_⟩
    intro other moreSteps another hother hhosts hanswered
    have hsame := hother.responses_perm hanswered
    rw [hhosts] at hsame
    refine ⟨hperm.trans hsame.symm, ?_⟩
    rw [hsummary, hother.reachable.ordered.summary]
    exact Summary.tally_perm (hperm.trans hsame.symm)

/-- The second worker takes the first host, and the first worker answers first. -/
def crossedRun : List Step :=
  [.spawn, .spawn, .run, .look, .offer, .look, .offer, .look, .close, .worker 0 .look,
    .worker 1 .look, .worker 1 .fetch, .worker 0 .fetch, .worker 0 .begin, .worker 1 .begin,
    .worker 0 (.answer .timeout), .worker 1 (.answer (.found "1")), .worker 0 .send,
    .worker 1 .send, .collect, .worker 0 .look, .worker 0 .fetch, .worker 0 .letGo,
    .worker 0 .letGo, .worker 0 .letGo, .worker 1 .look, .worker 1 .fetch, .worker 1 .letGo,
    .worker 1 .letGo, .collect, .collect, .join, .worker 1 .letGo, .wake]

/-- One worker probes both hosts. -/
def soloRun : List Step :=
  [.spawn, .run, .look, .offer, .worker 0 .look, .worker 0 .fetch, .worker 0 .begin,
    .worker 0 (.answer (.found "1")), .worker 0 .send, .look, .offer, .look, .close, .collect,
    .worker 0 .look, .worker 0 .fetch, .worker 0 .begin, .worker 0 (.answer .timeout),
    .worker 0 .send, .collect, .worker 0 .look, .worker 0 .fetch, .worker 0 .letGo,
    .worker 0 .letGo, .worker 0 .letGo, .collect, .join]

/-- The first of two hosts carries the header, and the other does not answer in time. -/
def firstFound (host : Host) : Status := if host.text = "a" then .found "1" else .timeout

/-- The case of two runs with different numbers of workers. -/
theorem every_host_reported_once_pair :
    ∃ scan another, Undisturbed pairOfWorkers crossedRun scan ∧
      Undisturbed twoHosts soloRun another ∧
      scan.pool.ledger.answered.map Delivery.answer = [(0, .timeout), (1, .found "1")] ∧
      scan.responses.Perm [⟨⟨"a"⟩, .found "1"⟩, ⟨⟨"b"⟩, .timeout⟩] ∧
      scan.summary = ⟨2, 1, 0, 1, 0⟩ ∧
      scan.responses.Perm another.responses ∧ scan.summary = another.summary := by
  obtain ⟨scan, hscan, hprobe⟩ : ∃ scan, Undisturbed pairOfWorkers crossedRun scan ∧
      scan.AnsweredBy firstFound :=
    ⟨_, ⟨rfl, rfl, by decide, by simp [crossedRun]⟩, by decide⟩
  obtain ⟨another, hother, hanswered⟩ : ∃ another, Undisturbed twoHosts soloRun another ∧
      another.AnsweredBy firstFound :=
    ⟨_, ⟨rfl, rfl, by decide, by simp [soloRun]⟩, by decide⟩
  obtain ⟨-, hanswers, -, -, -, hprobes⟩ := every_host_reported_once hscan
  obtain ⟨hperm, -, hsummary, hsame⟩ := hprobes _ hprobe
  obtain ⟨hresponses, hequal⟩ := hsame hother rfl hanswered
  exact ⟨scan, another, hscan, hother, hanswers, hperm, hsummary, hresponses, hequal⟩

end Scan

end HeaderScan
