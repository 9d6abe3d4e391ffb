import HeaderScan.Proofs.Pool.Hands
import HeaderScan.Proofs.Scan.Exits

/-!
# Where the hosts are

At every moment of a scan the configured list is made up, in order, of the hosts that
were handed out, those in the queue and those that the feed still has. A host that was
handed out is in the hands of a worker, has its response in the channel or in the
report, or was lost in a panic. When the scan returns, only the last two are left.
-/

namespace HeaderScan

namespace Scan

variable {config : ScanConfig} {scan : Scan} {w : Nat}

/-- The place of every host of the configuration. -/
structure Partitioned (config : ScanConfig) (scan : Scan) : Prop where
  /-- The list is handed out from its front, through the queue, in order. -/
  hosts : config.hosts =
    scan.pool.ledger.handedOut.map Prod.snd ++ scan.pool.queue.items ++ scan.feed.remaining
  /-- Every host that was handed out is in exactly one place. -/
  handedOut : scan.pool.ledger.handedOut.Perm
    (scan.reported.map Delivery.place ++ scan.pool.results.items.map Delivery.place ++
      scan.pool.hands ++ scan.pool.ledger.lost)
  /-- So is every host of a worker, in the order in which the worker took it. -/
  order : ∀ w, entriesOf w scan.pool.ledger.handedOut =
    entriesOf w (scan.reported.map Delivery.place) ++
      entriesOf w (scan.pool.results.items.map Delivery.place) ++
      entriesOf w scan.pool.hands ++ entriesOf w scan.pool.ledger.lost
  /-- No worker has two hosts in its hands. -/
  hands : ∀ w, (entriesOf w scan.pool.hands).length ≤ 1
  /-- A panic loses the host whose probe panicked, which is the last one called. -/
  panicked : ∀ w, scan.pool.exit? w = some .panicked →
    ∃ earlier host, entriesOf w scan.pool.ledger.called = earlier ++ [host] ∧
      entriesOf w scan.pool.ledger.lost = [host]
  /-- Nothing else loses a host. -/
  lost : ∀ w, scan.pool.exit? w ≠ some .panicked → entriesOf w scan.pool.ledger.lost = []

/-- The responses that a worker has sent were reported or are in the channel. -/
theorem Ordered.entriesOf_sent (h : scan.Ordered config) (w : Nat) :
    entriesOf w (scan.pool.ledger.sent.map Delivery.entry) =
      entriesOf w (scan.reported.map Delivery.entry) ++
        entriesOf w (scan.pool.results.items.map Delivery.entry) := by
  rw [h.sent, List.map_append, entriesOf_append]

/-- The account of a worker, read from the places of its responses. -/
theorem Reachable.order (h : Reachable config scan) (w : Nat) :
    entriesOf w scan.pool.ledger.handedOut =
      entriesOf w (scan.reported.map Delivery.place) ++
        entriesOf w (scan.pool.results.items.map Delivery.place) ++
        entriesOf w scan.pool.hands ++ entriesOf w scan.pool.ledger.lost := by
  have hsound := (h.pool.sound w).handedOut
  have hsent := congrArg (List.map Response.host) (h.ordered.entriesOf_sent w)
  simp only [Pool.history] at hsound
  simp only [Pool.hands, Pool.entriesOf_shown, Delivery.entriesOf_place, hsound, hsent,
    List.map_append]

/-- A worker that has not panicked has lost nothing. -/
theorem Reachable.lost (h : Reachable config scan) (hexit : scan.pool.exit? w ≠ some .panicked) :
    entriesOf w scan.pool.ledger.lost = [] := by
  have hsound := h.pool.sound w
  cases hend : scan.pool.exit? w with
  | none => exact hsound.lost hend
  | some exit =>
    rw [h.ended.eq_returned hend hexit] at hend
    exact hsound.returned h.provided.hasReceiver hend

/-- The responses that a worker has made were reported, are in the channel, or are about to
be sent. -/
theorem Reachable.entriesOf_made (h : Reachable config scan) (w : Nat) :
    entriesOf w (scan.pool.ledger.made.map Delivery.entry) =
      entriesOf w (scan.reported.map Delivery.entry) ++
        entriesOf w (scan.pool.results.items.map Delivery.entry) ++
        entriesOf w (scan.pool.shown Phase.response?) := by
  have hkept : entriesOf w scan.pool.ledger.lost = [] ∨
      scan.pool.exit? w = some .panicked := by
    by_cases hexit : scan.pool.exit? w = some .panicked
    · exact .inr hexit
    · exact .inl (h.lost hexit)
  rw [Pool.entriesOf_shown, ← h.ordered.entriesOf_sent]
  exact (h.pool.sound w).made hkept

/-- So were all responses together. -/
theorem Reachable.made_perm (h : Reachable config scan) :
    (scan.pool.ledger.made.map Delivery.entry).Perm
      (scan.reported.map Delivery.entry ++ scan.pool.results.items.map Delivery.entry ++
        scan.pool.shown Phase.response?) := by
  apply perm_of_entriesOf
  intro w
  rw [entriesOf_append, entriesOf_append, h.entriesOf_made]

/-- In every scan that can come about each host has its place. -/
theorem Reachable.partitioned (h : Reachable config scan) : scan.Partitioned config where
  hosts := h.ordered.hosts
  handedOut := by
    apply perm_of_entriesOf
    intro w
    simpa only [entriesOf_append] using h.order w
  order := h.order
  hands := scan.pool.length_entriesOf_shown_le _
  panicked w := (h.pool.sound w).panicked
  lost _ := h.lost

/-! ## When the scan returns -/

/-- When the scan returns every worker has let go of everything. -/
theorem Reachable.gone (h : Reachable config scan) (hreturned : scan.stage = .returned)
    {phase : Phase} (hphase : scan.pool.phases[w]? = some phase) : ∃ exit, phase = .gone exit :=
  Phase.exists_gone_of_hasGuard
    (h.provided.shared.not_hasGuard (h.staged.returned hreturned) hphase)

/-- A view that shows nothing of a worker that is gone shows nothing at the end. -/
theorem Reachable.view_returned {α : Type} (h : Reachable config scan)
    (hreturned : scan.stage = .returned) {view : Phase → Option α}
    (hview : ∀ exit, view (.gone exit) = none) (w : Nat) :
    scan.pool.phases[w]?.bind view = none := by
  cases hphase : scan.pool.phases[w]? with
  | none => rfl
  | some phase =>
    obtain ⟨exit, rfl⟩ := h.gone hreturned hphase
    simp [hview]

/-- So nothing is shown in such a view. -/
theorem Reachable.shown_returned {α : Type} (h : Reachable config scan)
    (hreturned : scan.stage = .returned) {view : Phase → Option α}
    (hview : ∀ exit, view (.gone exit) = none) : scan.pool.shown view = [] := by
  apply eq_nil_of_entriesOf
  intro w
  rw [Pool.entriesOf_shown, h.view_returned hreturned hview]
  rfl

/-- When the scan returns the channel is empty. -/
theorem Reachable.items_returned (h : Reachable config scan) (hreturned : scan.stage = .returned) :
    scan.pool.results.items = [] := by
  have hover := h.staged.joined (by rw [hreturned]; rfl)
  exact (h.staged.collected hover.2).2

/-- When the scan returns every host that was handed out is reported or lost. -/
theorem Reachable.handedOut_returned (h : Reachable config scan)
    (hreturned : scan.stage = .returned) : scan.pool.ledger.handedOut.Perm
      (scan.reported.map Delivery.place ++ scan.pool.ledger.lost) := by
  have hperm := h.partitioned.handedOut
  have hhands : scan.pool.hands = [] := h.shown_returned hreturned fun _ => rfl
  simpa [h.items_returned hreturned, hhands] using hperm

/-- When the scan returns every response that was made is reported. -/
theorem Reachable.made_returned (h : Reachable config scan)
    (hreturned : scan.stage = .returned) : scan.pool.ledger.made.Perm scan.reported := by
  apply Delivery.perm_of_entries
  have hperm := h.made_perm
  have hresponses : scan.pool.shown Phase.response? = [] :=
    h.shown_returned hreturned fun _ => rfl
  simpa [h.items_returned hreturned, hresponses] using hperm

/-- The panic of a worker, as a view of its phase. -/
def panic? (phase : Phase) : Option Unit := if phase.exit? = some .panicked then some () else none

/-- As many hosts are lost as workers have panicked. -/
theorem Reachable.length_lost (h : Reachable config scan) : scan.pool.ledger.lost.length =
    scan.pool.phases.countP fun phase => phase.exit? = some .panicked := by
  have hworkers : (scan.pool.ledger.lost.map Prod.fst).Perm
      ((scan.pool.shown panic?).map Prod.fst) := by
    apply List.perm_iff_count.mpr
    intro w
    rw [count_map_fst, count_map_fst, Pool.entriesOf_shown]
    by_cases hexit : scan.pool.exit? w = some .panicked
    · obtain ⟨_, host, -, hlost⟩ := h.partitioned.panicked w hexit
      obtain ⟨phase, hphase, hpanicked⟩ := Option.bind_eq_some_iff.mp hexit
      simp [hlost, hphase, panic?, hpanicked]
    · rw [h.lost hexit]
      cases hphase : scan.pool.phases[w]? with
      | none => rfl
      | some phase =>
        rw [Pool.exit?_of_phase hphase] at hexit
        simp [panic?, hexit]
  have hlength := hworkers.length_eq
  rw [List.length_map, List.length_map, Pool.length_shown] at hlength
  rw [hlength]
  apply List.countP_congr
  intro phase _
  simp only [panic?]
  split <;> simp_all

/-- What was handed out is a front part of the list. -/
theorem Ordered.take_hosts (h : scan.Ordered config) :
    config.hosts.take scan.pool.ledger.handedOut.length =
      scan.pool.ledger.handedOut.map Prod.snd := by
  rw [h.hosts, List.append_assoc, List.take_append_of_le_length (by simp)]
  exact List.take_of_length_le (by simp)

/-- In every scan that can come about, whatever was cancelled and whatever has panicked,
every host has its place. When the scan returns, the hosts reported are the first ones of
the list but for one lost by each worker that panicked, and the total is their number. -/
theorem hosts_accounted_for (h : Reachable config scan) :
    scan.Partitioned config ∧
      (scan.stage = .returned →
        ∃ k lost, k ≤ config.hosts.length ∧
          (config.hosts.take k).Perm (scan.responses.map (·.host) ++ lost) ∧
          lost.length = (scan.pool.phases.countP fun phase => phase.exit? = some .panicked) ∧
          scan.summary.total = scan.responses.length) := by
  refine ⟨h.partitioned, fun hreturned => ?_⟩
  refine ⟨scan.pool.ledger.handedOut.length, scan.pool.ledger.lost.map Prod.snd, ?_, ?_, ?_, ?_⟩
  · have hlength := congrArg List.length h.ordered.hosts
    simp only [List.length_append, List.length_map] at hlength
    omega
  · rw [h.ordered.take_hosts]
    have hperm := (h.handedOut_returned hreturned).map Prod.snd
    simpa [responses, Delivery.place, Function.comp_def] using hperm
  · rw [List.length_map, h.length_lost]
  · rw [h.ordered.summary, Summary.tally_eq]

/-- Two hosts for one worker. -/
def twoHosts : ScanConfig := ⟨[⟨"a"⟩, ⟨"b"⟩], 1, by decide⟩

/-- Two workers for two hosts. -/
def pairOfWorkers : ScanConfig := { twoHosts with workers := 2, workers_pos := by decide }

/-- The worker panics with the first host, and the second is refused. -/
def panickingRun : List Step :=
  [.spawn, .run, .look, .offer, .worker 0 .look, .worker 0 .fetch, .worker 0 .begin,
    .worker 0 .panic, .worker 0 .letGo, .worker 0 .letGo, .worker 0 .letGo, .look, .offer,
    .close, .collect, .join]

/-- The case of a panic that leaves no worker for the second host. -/
theorem hosts_accounted_for_panic :
    ∃ scan, (Scan.start twoHosts).follow? panickingRun = some scan ∧
      scan.stage = .returned ∧ scan.Partitioned twoHosts ∧
      ∃ k lost, k ≤ twoHosts.hosts.length ∧
        (twoHosts.hosts.take k).Perm (scan.responses.map (·.host) ++ lost) ∧
        lost.length = (scan.pool.phases.countP fun phase => phase.exit? = some .panicked) ∧
        scan.summary.total = scan.responses.length := by
  have hstart : Reachable twoHosts (.start twoHosts) := .start
  obtain ⟨scan, hrun, hreturned⟩ : ∃ scan, (Scan.start twoHosts).follow? panickingRun =
      some scan ∧ scan.stage = .returned := ⟨_, rfl, rfl⟩
  have h := hosts_accounted_for (hstart.follow? hrun)
  exact ⟨scan, hrun, hreturned, h.1, h.2 hreturned⟩

end Scan

end HeaderScan
