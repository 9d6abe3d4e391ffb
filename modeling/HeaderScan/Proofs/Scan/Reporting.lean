import HeaderScan.Proofs.Scan.Undisturbed
import HeaderScan.Proofs.Scan.Cancelled

/-!
# The order of the reports

Hosts leave the queue in the order of the list, a worker has one host at a time, and the
channel keeps the order of its responses. So every response that is reported belongs to a
position of the list, and those of one worker come in the order of their positions. A single
worker that does not panic reports the list from its front, without a gap.
-/

namespace HeaderScan

namespace Scan

variable {config : ScanConfig} {scan : Scan}

/-- These are the positions in the list of the responses that were reported. -/
structure Positioned (config : ScanConfig) (scan : Scan) (positions : List Nat) : Prop where
  /-- The host at each position was taken by the worker of the response. -/
  taken : positions.map (scan.pool.ledger.handedOut[·]?) =
    scan.reported.map fun delivery => some delivery.place
  /-- It is the host of the response. -/
  hosts : positions.map (config.hosts[·]?) = scan.responses.map fun response => some response.host
  /-- Each position has its own response. -/
  nodup : positions.Nodup
  /-- Those of one worker are increasing. -/
  increasing : positions.Pairwise fun first later =>
    scan.pool.ledger.handedOut[first]?.map Prod.fst =
      scan.pool.ledger.handedOut[later]?.map Prod.fst → first < later

/-- The responses of a worker that were reported are about the first hosts that it has taken. -/
theorem Reachable.places_isPrefix (h : Reachable config scan) (w : Nat) :
    entriesOf w (scan.reported.map Delivery.place) <+: entriesOf w scan.pool.ledger.handedOut := by
  rw [h.order, List.append_assoc, List.append_assoc]
  exact List.prefix_append _ _

/-- They are the first ones that it has made. -/
theorem Reachable.entries_isPrefix (h : Reachable config scan) (w : Nat) :
    entriesOf w (scan.reported.map Delivery.entry) <+:
      entriesOf w (scan.pool.ledger.made.map Delivery.entry) := by
  rw [h.entriesOf_made, List.append_assoc]
  exact List.prefix_append _ _

/-- What was handed out stands at the same position in the list. -/
theorem Ordered.getElem?_hosts (h : scan.Ordered config) {position : Nat} {entry : Nat × Host}
    (hentry : scan.pool.ledger.handedOut[position]? = some entry) :
    config.hosts[position]? = some entry.2 := by
  have hprefix : scan.pool.ledger.handedOut.map Prod.snd <+: config.hosts := by
    rw [← h.take_hosts]
    exact List.take_prefix _ _
  obtain ⟨rest, hrest⟩ := hprefix
  obtain ⟨hlt, hget⟩ := List.getElem?_eq_some_iff.mp hentry
  rw [← hrest, List.getElem?_append_left (by simpa using hlt), List.getElem?_map, hentry]
  rfl

/-- Every response that was reported has its position. -/
theorem Reachable.exists_positioned (h : Reachable config scan) :
    ∃ positions, scan.Positioned config positions := by
  -- Each worker has the positions of the first hosts that it has taken.
  obtain ⟨woven, hplaces, hentries⟩ := exists_woven Prod.fst (scan.reported.map Delivery.place)
    (fun w => (entriesOf w (numbered scan.pool.ledger.handedOut)).take
      (entriesOf w (scan.reported.map Delivery.place)).length) fun w => by
      rw [List.map_take, map_fst_entriesOf_numbered]
      exact (List.prefix_iff_eq_take.mp (h.places_isPrefix w)).symm
  have htaken : ∀ entry ∈ woven,
      scan.pool.ledger.handedOut[entry.2.2]? = some (entry.1, entry.2.1) := by
    rintro ⟨w, host, position⟩ hmem
    have hentry := mem_entriesOf.mpr hmem
    rw [hentries] at hentry
    exact mem_numbered.mp (mem_entriesOf.mp (List.mem_of_mem_take hentry))
  have hpairwise : woven.Pairwise fun a b => a.1 = b.1 → a.2.2 < b.2.2 := by
    refine pairwise_of_entriesOf (R := fun (a b : Host × Nat) => a.2 < b.2) fun w => ?_
    rw [hentries]
    exact (pairwise_entriesOf_numbered _).sublist (List.take_sublist _ _)
  have hincreasing : (woven.map fun entry => entry.2.2).Pairwise fun first later =>
      scan.pool.ledger.handedOut[first]?.map Prod.fst =
        scan.pool.ledger.handedOut[later]?.map Prod.fst → first < later := by
    rw [List.pairwise_map]
    refine hpairwise.imp_of_mem fun {a b} ha hb hlt hworker => hlt ?_
    rw [htaken a ha, htaken b hb] at hworker
    exact Option.some.inj hworker
  refine ⟨woven.map fun entry => entry.2.2, ?_, ?_, ?_, hincreasing⟩
  · calc
      (woven.map fun entry => entry.2.2).map (scan.pool.ledger.handedOut[·]?)
          = woven.map fun entry => some (entry.1, entry.2.1) := by
            rw [List.map_map]
            exact List.map_congr_left htaken
        _ = (scan.reported.map Delivery.place).map some := by
            rw [← hplaces, List.map_map]
            rfl
        _ = scan.reported.map fun delivery => some delivery.place := List.map_map
  · calc
      (woven.map fun entry => entry.2.2).map (config.hosts[·]?)
          = woven.map fun entry => some entry.2.1 := by
            rw [List.map_map]
            exact List.map_congr_left fun entry hentry =>
              h.ordered.getElem?_hosts (htaken entry hentry)
        _ = (scan.reported.map Delivery.place).map fun place => some place.2 := by
            rw [← hplaces, List.map_map]
            rfl
        _ = scan.responses.map fun response => some response.host := by
            rw [responses, List.map_map, List.map_map]
            rfl
  · exact hincreasing.imp fun hlt heq => absurd (hlt (by rw [heq])) (by omega)

/-- Workers that are not configured have done nothing. -/
theorem Reachable.history_unstarted (h : Reachable config scan) {w : Nat}
    (hw : config.workers ≤ w) : scan.pool.history w = .unstarted := by
  apply h.pool.unstarted
  have hworkers := h.provided.workers
  exact List.getElem?_eq_none (by omega)

/-- With a single worker, a log in which workers that have done nothing have no entries is the
log of its entries. -/
theorem Reachable.eq_map_alone (h : Reachable config scan) (halone : config.workers = 1)
    {α : Type} {log : List (Nat × α)}
    (hlog : ∀ w, scan.pool.history w = .unstarted → entriesOf w log = []) :
    log = (entriesOf 0 log).map (0, ·) := by
  apply eq_map_of_entriesOf
  intro w hw
  exact hlog w (h.history_unstarted (by omega))

/-- A single worker has taken all hosts. -/
theorem Reachable.handedOut_alone (h : Reachable config scan) (halone : config.workers = 1) :
    scan.pool.ledger.handedOut = (entriesOf 0 scan.pool.ledger.handedOut).map (0, ·) :=
  h.eq_map_alone halone fun _ hw => congrArg History.handedOut hw

/-- It has made all responses. -/
theorem Reachable.made_alone (h : Reachable config scan) (halone : config.workers = 1) :
    scan.pool.ledger.made.map Delivery.entry =
      (entriesOf 0 (scan.pool.ledger.made.map Delivery.entry)).map (0, ·) :=
  h.eq_map_alone halone fun _ hw => congrArg History.made hw

/-- So it has made those that were reported. -/
theorem Reachable.reported_alone (h : Reachable config scan) (halone : config.workers = 1) :
    scan.reported.map Delivery.entry =
      (entriesOf 0 (scan.reported.map Delivery.entry)).map (0, ·) := by
  refine h.eq_map_alone halone fun w hw => ?_
  have hmade : entriesOf w (scan.pool.ledger.made.map Delivery.entry) = [] :=
    congrArg History.made hw
  rw [← List.prefix_nil, ← hmade]
  exact h.entries_isPrefix w

/-- The responses that a single worker has made are reported in the order of the list. -/
theorem Reachable.hosts_alone (h : Reachable config scan) (halone : config.workers = 1) :
    scan.responses.map (·.host) = config.hosts.take scan.reported.length := by
  have hplaces : scan.reported.map Delivery.place =
      (entriesOf 0 (scan.reported.map Delivery.place)).map (0, ·) := by
    refine h.eq_map_alone halone fun w hw => ?_
    have hhandedOut : entriesOf w scan.pool.ledger.handedOut = [] :=
      congrArg History.handedOut hw
    rw [← List.prefix_nil, ← hhandedOut]
    exact h.places_isPrefix w
  have hfront : scan.reported.map Delivery.place <+: scan.pool.ledger.handedOut := by
    rw [hplaces, h.handedOut_alone halone]
    exact (h.places_isPrefix 0).map _
  have hhosts : scan.responses.map (·.host) <+: config.hosts := by
    have hprefix := hfront.map Prod.snd
    rw [← h.ordered.take_hosts, List.map_map] at hprefix
    rw [responses, List.map_map]
    exact hprefix.trans (List.take_prefix _ _)
  rw [List.prefix_iff_eq_take.mp hhosts, List.length_map, responses, List.length_map]

/-- When the scan returns and its single worker has not panicked, every host that was handed out
has its response in the report. -/
theorem Reachable.length_alone (h : Reachable config scan) (halone : config.workers = 1)
    (hreturned : scan.stage = .returned) (hpanic : scan.pool.exit? 0 ≠ some .panicked) :
    scan.reported.length = scan.pool.ledger.handedOut.length := by
  have hlost : scan.pool.ledger.lost = [] := by
    rw [h.eq_map_alone halone fun _ hw => congrArg History.lost hw, h.lost hpanic]
    rfl
  have hperm := h.handedOut_returned hreturned
  rw [hlost, List.append_nil] at hperm
  rw [hperm.length_eq, List.length_map]

/-- When the scan returns, all responses of a single worker are reported in the order in which
it has made them. -/
theorem Reachable.reported_eq_made (h : Reachable config scan) (halone : config.workers = 1)
    (hreturned : scan.stage = .returned) : scan.reported = scan.pool.ledger.made := by
  have hmade := h.entriesOf_made 0
  have hresponses : scan.pool.shown Phase.response? = [] :=
    h.shown_returned hreturned fun _ => rfl
  rw [h.items_returned hreturned, hresponses, List.map_nil, entriesOf_nil, List.append_nil,
    List.append_nil] at hmade
  apply Delivery.entry_injective.list_map
  rw [h.reported_alone halone, h.made_alone halone, hmade]

/-- Without a cancellation, the responses of a single worker are the answers of its probes. -/
theorem Reachable.made_eq_answered (h : Reachable config scan) (halone : config.workers = 1)
    (htoken : scan.pool.isCancelled = false) :
    scan.pool.ledger.made = scan.pool.ledger.answered := by
  have hanswered := (h.pool.sound 0).answered htoken
  apply Delivery.entry_injective.list_map
  rw [h.made_alone halone, h.eq_map_alone halone fun _ hw => congrArg History.answered hw]
  exact congrArg (List.map _) hanswered

/-- Responses are reported in the order of the list, as far as one worker is concerned. At every
moment of every scan, whatever was cancelled and whatever has panicked, each response that was
reported has its own position in the list, those of one worker are about the first hosts that
it has taken and come in the order of their positions, which is the order in which it has made
them. A single worker reports the list from its front; and when the scan returns without its
panic, all its responses were reported, for as many hosts as were handed out, which without a
cancellation are all. -/
theorem reported_in_order (h : Reachable config scan) :
    (∃ positions, scan.Positioned config positions) ∧
    (∀ w, entriesOf w (scan.reported.map Delivery.place) <+:
        entriesOf w scan.pool.ledger.handedOut ∧
      entriesOf w (scan.reported.map Delivery.entry) <+:
        entriesOf w (scan.pool.ledger.made.map Delivery.entry)) ∧
    (config.workers = 1 →
      scan.responses.map (·.host) = config.hosts.take scan.reported.length ∧
      (scan.stage = .returned → scan.pool.exit? 0 ≠ some .panicked →
        scan.reported = scan.pool.ledger.made ∧
        scan.responses.map (·.host) = config.hosts.take scan.pool.ledger.handedOut.length ∧
        scan.responses.length = scan.pool.ledger.handedOut.length ∧
        (scan.pool.isCancelled = false →
          scan.responses.map (·.host) = config.hosts ∧
          scan.reported = scan.pool.ledger.answered))) := by
  refine ⟨h.exists_positioned, fun w => ⟨h.places_isPrefix w, h.entries_isPrefix w⟩,
    fun halone => ⟨h.hosts_alone halone, fun hreturned hpanic => ?_⟩⟩
  have hlength := h.length_alone halone hreturned hpanic
  have hreported := h.reported_eq_made halone hreturned
  have hhosts : scan.responses.map (·.host) =
      config.hosts.take scan.pool.ledger.handedOut.length := by
    rw [h.hosts_alone halone, hlength]
  refine ⟨hreported, hhosts, ?_, fun htoken => ⟨?_, ?_⟩⟩
  · rw [responses, List.length_map, hlength]
  · rw [hhosts, h.ordered.take_hosts, h.map_handedOut hreturned htoken hpanic]
  · rw [hreported, h.made_eq_answered halone htoken]

/-- The case of a single worker whose scan is cancelled in its first probe: that host is
reported, the second one is never handed out. -/
theorem reported_in_order_interrupted : ∃ scan,
    (Scan.start twoHosts).follow? (interruptedRun ++ windingDown) = some scan ∧
    scan.stage = .returned ∧ scan.pool.isCancelled = true ∧
    (∃ positions, scan.Positioned twoHosts positions) ∧
    scan.reported = scan.pool.ledger.made ∧
    scan.responses.map (·.host) = twoHosts.hosts.take 1 := by
  obtain ⟨scan, hrun, hreturned, htoken, hpanic, hlength⟩ : ∃ scan,
      (Scan.start twoHosts).follow? (interruptedRun ++ windingDown) = some scan ∧
      scan.stage = .returned ∧ scan.pool.isCancelled = true ∧
      scan.pool.exit? 0 ≠ some .panicked ∧ scan.pool.ledger.handedOut.length = 1 :=
    ⟨_, rfl, rfl, rfl, by decide, rfl⟩
  obtain ⟨hpositions, -, halone⟩ := reported_in_order (Reachable.start.follow? hrun)
  obtain ⟨hmade, hhosts, -⟩ := (halone rfl).2 hreturned hpanic
  rw [hlength] at hhosts
  exact ⟨scan, hrun, hreturned, htoken, hpositions, hmade, hhosts⟩

end Scan

end HeaderScan
