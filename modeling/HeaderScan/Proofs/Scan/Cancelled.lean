import HeaderScan.Proofs.Pool.Cancelled
import HeaderScan.Proofs.Scan.Quiescence

/-!
# Scans after the cancellation

A scan whose token is cancelled winds down by itself. The feed puts in no host but one
that it was offering already, the workers start no probe and give up those in flight, and
the scan returns without waiting for any of them, with every response reported.
-/

namespace HeaderScan

/-- The host that the feed waits to put in, if it does. -/
def Feed.waiting : Feed → List Host
  | offering host _ => [host]
  | _ => []

namespace Scan

variable {config : ScanConfig} {before after scan : Scan} {step : Step} {steps : List Step}

/-- The hosts that were put into the queue, in order. -/
def enqueued (scan : Scan) : List Host :=
  scan.pool.ledger.handedOut.map Prod.snd ++ scan.pool.queue.items

/-- Only the host that the feed was offering comes to the queue. -/
def Fed (before after : Scan) : Prop :=
  ∃ new, after.enqueued = before.enqueued ++ new ∧ new ++ after.feed.waiting <+: before.feed.waiting

theorem Fed.refl (scan : Scan) : scan.Fed scan := ⟨[], by simp, List.prefix_refl _⟩

theorem Fed.trans {middle : Scan} (hfirst : before.Fed middle) (hlater : middle.Fed after) :
    before.Fed after := by
  obtain ⟨first, hfirstEnqueued, hfirstWaiting⟩ := hfirst
  obtain ⟨later, hlaterEnqueued, hlaterWaiting⟩ := hlater
  refine ⟨first ++ later, ?_, ?_⟩
  · rw [hlaterEnqueued, hfirstEnqueued, List.append_assoc]
  · rw [List.append_assoc]
    exact ((List.prefix_append_right_inj first).mpr hlaterWaiting).trans hfirstWaiting

/-- A step that puts nothing in leaves the feed with no other host than before. -/
theorem Fed.of_enqueued_eq (henqueued : after.enqueued = before.enqueued)
    (hwaiting : after.feed.waiting <+: before.feed.waiting) : before.Fed after :=
  ⟨[], by simp [henqueued], hwaiting⟩

/-- Once the token is cancelled the feed begins to offer no host. -/
theorem Stepped.fed (h : Stepped before step after) (htoken : before.pool.isCancelled = true) :
    before.Fed after := by
  cases h with
  | spawn | run | cancel | collect | finish | join | wake =>
    exact .of_enqueued_eq rfl (List.prefix_refl _)
  | worker hmoved => exact .of_enqueued_eq hmoved.taken (List.prefix_refl _)
  | exhaust | heed | refuse | giveUp | close => exact .of_enqueued_eq rfl (List.nil_prefix)
  | look _ _ hnone => cases hnone.symm.trans htoken
  | @offer host _ _ hfeed =>
    refine ⟨[host], by simp [enqueued], ?_⟩
    rw [hfeed]
    exact List.prefix_refl _

/-- A run that begins with a cancelled token ends with one, and the feed begins to offer
no host in it. -/
theorem follow?_fed (htoken : before.pool.isCancelled = true)
    (h : before.follow? steps = some after) :
    after.pool.isCancelled = true ∧ before.Fed after := by
  refine follow?_induction (motive := fun after => after.pool.isCancelled = true ∧
    before.Fed after) ?_ ⟨htoken, .refl _⟩ h
  rintro middle next step ⟨hmiddle, hfed⟩ hnext
  exact ⟨hnext.isCancelled hmiddle, hfed.trans (hnext.fed hmiddle)⟩

/-- A cancelled scan that is quiescent has no probe in flight: it could be abandoned. -/
theorem Quiescent.inFlight_eq_nil (h : scan.Quiescent)
    (htoken : scan.pool.isCancelled = true) : scan.pool.inFlight = [] := by
  apply eq_nil_of_entriesOf
  intro w
  rw [Pool.inFlight, Pool.entriesOf_shown]
  cases hphase : scan.pool.phases[w]? with
  | none => rfl
  | some phase =>
    cases phase with
    | probing host => exact absurd (.abandon hphase htoken) (h.not_moved rfl)
    | _ => rfl

/-- So it has returned. -/
theorem Quiescent.returned_of_cancelled (h : scan.Quiescent) (hscan : Reachable config scan)
    (htoken : scan.pool.isCancelled = true) : scan.stage = .returned :=
  h.returned hscan (h.inFlight_eq_nil htoken)

/-- No run begins with more steps left than there are at the start. -/
theorem Reachable.stepsLeft_le (h : Reachable config scan) :
    scan.stepsLeft ≤ 9 * config.hosts.length + 6 * config.workers + 7 := by
  rw [← stepsLeft_start]
  refine h.induction (motive := fun scan => scan.stepsLeft ≤ (Scan.start config).stepsLeft)
    (Nat.le_refl _) ?_
  intro before after step hbefore hle hstep
  have hless := hstep.stepsLeft_lt hbefore.staged
  omega

/-- Unless a probe says so by itself, no more hosts are abandoned than there are workers. -/
theorem Reachable.abandoned_le (h : Reachable config scan) (hplain : scan.pool.AnswersPlainly) :
    Pool.abandoned scan.pool.ledger.made ≤ config.workers := by
  have hcount := h.pool.abandoned_le hplain
  have hworkers := h.provided.workers
  omega

/-- The summary counts the hosts that were reported as abandoned. -/
theorem Ordered.cancelled_eq (h : scan.Ordered config) :
    scan.summary.cancelled = Pool.abandoned scan.reported := by
  rw [h.summary, Summary.tally_eq]
  simp only [responses, List.countP_map]
  rfl

/-- What is reported as abandoned was made as such. -/
theorem Reachable.cancelled_le_abandoned (h : Reachable config scan) :
    scan.summary.cancelled ≤ Pool.abandoned scan.pool.ledger.made := by
  rw [h.ordered.cancelled_eq, Pool.abandoned_eq, Pool.abandoned_eq, h.made_perm.countP_eq,
    List.countP_append, List.countP_append]
  omega

/-- What a cancelled scan does not do any more, and how it ends. -/
structure Stilled (config : ScanConfig) (before after : Scan) : Prop where
  /-- No probe starts, and a worker makes at most one more response before it stops. -/
  pool : before.pool.Stilled after.pool
  /-- At most the host that the feed was offering is put into the queue. -/
  enqueued : ∃ new, after.enqueued = before.enqueued ++ new ∧
    (new = [] ∨ ∃ host rest, before.feed = .offering host rest ∧ new = [host])
  /-- Every response, an abandoned host included, is about a host that a worker took. -/
  handedOut : ∀ delivery ∈ after.pool.ledger.made,
    delivery.place ∈ after.pool.ledger.handedOut
  /-- Unless a probe says so by itself, no more hosts are abandoned than there are workers. -/
  abandoned : after.pool.AnswersPlainly →
    Pool.abandoned after.pool.ledger.made ≤ config.workers ∧
      after.summary.cancelled ≤ config.workers
  /-- The scan has returned when only probes could go on. -/
  quiescent : after.Quiescent → after.stage = .returned
  /-- It gets there when no probe ever ends. -/
  returns : ∃ steps last, after.follow? steps = some last ∧
    (∀ step ∈ steps, step.endsProbe = false) ∧ last.stage = .returned
  /-- When it has returned every response is reported. -/
  reported : after.stage = .returned → after.reported.Perm after.pool.ledger.made

/-- The feed puts in at most the host that it was offering. -/
theorem Fed.enqueued (h : before.Fed after) : ∃ new, after.enqueued = before.enqueued ++ new ∧
    (new = [] ∨ ∃ host rest, before.feed = .offering host rest ∧ new = [host]) := by
  obtain ⟨new, hnew, hwaiting⟩ := h
  refine ⟨new, hnew, ?_⟩
  have hprefix := (List.prefix_append _ _).trans hwaiting
  cases hfeed : before.feed with
  | offering host rest =>
    rw [hfeed] at hprefix
    rcases List.prefix_cons_iff.mp hprefix with hnil | ⟨later, hlater, hnil⟩
    · exact .inl hnil
    · rw [List.prefix_nil.mp hnil] at hlater
      exact .inr ⟨host, rest, rfl, hlater⟩
  | looking | ending | done =>
    rw [hfeed] at hprefix
    exact .inl (List.prefix_nil.mp hprefix)

/-- Whatever happens to a cancelled scan, it only winds down. -/
theorem Reachable.stilled (hbefore : Reachable config before)
    (htoken : before.pool.isCancelled = true) (h : before.follow? steps = some after) :
    before.Stilled config after := by
  obtain ⟨hcancelled, hfed⟩ := follow?_fed htoken h
  obtain ⟨events, hevents⟩ := follow?_pool h
  have hafter := hbefore.follow? h
  constructor
  case pool => exact Pool.stilled_of_follow? htoken hevents
  case enqueued => exact hfed.enqueued
  case handedOut => exact fun _ hmem => hafter.pool.place_mem_handedOut hmem
  case abandoned =>
    intro hplain
    have habandoned := hafter.abandoned_le hplain
    exact ⟨habandoned, Nat.le_trans hafter.cancelled_le_abandoned habandoned⟩
  case quiescent => exact fun hquiet => hquiet.returned_of_cancelled hafter hcancelled
  case returns =>
    obtain ⟨more, last, hmore, hquiet, hall⟩ := hafter.exists_quiescent
    have hlast := (follow?_fed hcancelled hmore).1
    exact ⟨more, last, hmore, fun step hmem => (hall step hmem).2,
      hquiet.returned_of_cancelled (hafter.follow? hmore) hlast⟩
  case reported => exact fun hreturned => (hafter.made_returned hreturned).symm

/-- A scan that is cancelled before anything else calls no probe and reports nothing. -/
theorem follow?_cancel_start (h : (Scan.start config).follow? (.cancel :: steps) = some after) :
    after.pool.ledger.called = [] ∧ after.reported = [] ∧ after.summary = .empty := by
  have hafter := Reachable.start.follow? h
  obtain ⟨before, hcancel, hlater⟩ := follow?_cons.mp h
  cases hcancel
  have hstilled := (Reachable.step .cancel Reachable.start rfl).stilled rfl hlater
  have hhandedOut : after.pool.ledger.handedOut = [] := by
    obtain ⟨new, hnew, hnil | ⟨host, rest, hfeed, -⟩⟩ := hstilled.enqueued
    · rw [hnil] at hnew
      exact List.map_eq_nil_iff.mp (List.append_eq_nil_iff.mp hnew).1
    · cases hfeed
  have hmade : after.pool.ledger.made = [] := by
    apply List.eq_nil_iff_forall_not_mem.mpr
    intro delivery hmem
    have hplace := hstilled.handedOut delivery hmem
    rw [hhandedOut] at hplace
    cases hplace
  have hreported : after.reported = [] := by
    have hnil := List.nil_perm.mp (hmade ▸ hafter.made_perm :)
    exact List.map_eq_nil_iff.mp
      (List.append_eq_nil_iff.mp (List.append_eq_nil_iff.mp hnil).1).1
  refine ⟨hstilled.pool.called, hreported, ?_⟩
  rw [hafter.ordered.summary, responses, hreported]
  rfl

/-- In a pool, and in a scan, whose token is cancelled nothing new begins, whatever comes
next. A scan winds down within a bounded number of steps and without waiting for a probe;
when it is cancelled before anything else it calls no probe and reports nothing. -/
theorem cancellation_stills :
    (∀ {capacity slots : Nat} {before after : Pool} {events : List Pool.Event},
      Pool.Reachable capacity slots before → before.isCancelled = true →
      before.follow? events = some after →
      before.Stilled after ∧
        (∀ delivery ∈ after.ledger.made, delivery.place ∈ after.ledger.handedOut) ∧
        (after.AnswersPlainly → Pool.abandoned after.ledger.made ≤ after.phases.length)) ∧
    (∀ {config : ScanConfig} {before after : Scan} {steps : List Step},
      Reachable config before → before.pool.isCancelled = true →
      before.follow? steps = some after →
      before.Stilled config after ∧
        steps.length ≤ 9 * config.hosts.length + 6 * config.workers + 7) ∧
    ∀ {config : ScanConfig} {after : Scan} {steps : List Step},
      (Scan.start config).follow? (.cancel :: steps) = some after →
      after.pool.ledger.called = [] ∧ after.reported = [] ∧ after.summary = .empty := by
  refine ⟨?_, ?_, fun h => follow?_cancel_start h⟩
  · intro capacity slots before after events hbefore htoken h
    have hafter := hbefore.follow? h
    exact ⟨Pool.stilled_of_follow? htoken h, fun _ hmem => hafter.place_mem_handedOut hmem,
      hafter.abandoned_le⟩
  · intro config before after steps hbefore htoken h
    refine ⟨hbefore.stilled htoken h, ?_⟩
    have hlength := follow?_length_le hbefore h
    have hleft := hbefore.stepsLeft_le
    omega

/-- The token is cancelled while the first probe is in flight and the second host is
offered. -/
def interruptedRun : List Step :=
  [.spawn, .run, .look, .offer, .worker 0 .look, .worker 0 .fetch, .worker 0 .begin, .look,
    .cancel]

/-- The second host still gets into the queue; the first is abandoned. -/
def windingDown : List Step :=
  [.offer, .worker 0 .abandon, .look, .close, .worker 0 .send, .worker 0 .look, .collect,
    .worker 0 .letGo, .worker 0 .letGo, .collect, .join, .worker 0 .letGo, .wake]

/-- The cases of a scan that is interrupted, of its pool, and of one that is cancelled
before anything else. -/
theorem cancellation_stills_interrupted :
    (∃ before after, (Scan.start twoHosts).follow? interruptedRun = some before ∧
      before.follow? windingDown = some after ∧ after.stage = .returned ∧
      before.Stilled twoHosts after ∧ windingDown.length ≤ 31 ∧
      before.pool.Stilled after.pool ∧ Pool.abandoned after.pool.ledger.made ≤ 1 ∧
      after.summary.cancelled ≤ 1) ∧
    ∃ after, (Scan.start twoHosts).follow? [.cancel, .spawn, .run, .look, .close] = some after ∧
      after.pool.ledger.called = [] ∧ after.reported = [] ∧ after.summary = .empty := by
  obtain ⟨hpools, hscans, hstarts⟩ := cancellation_stills
  constructor
  · obtain ⟨before, hbefore, htoken, after, hafter, hreturned, hplain, hworkers⟩ : ∃ before,
        (Scan.start twoHosts).follow? interruptedRun = some before ∧
        before.pool.isCancelled = true ∧ ∃ after, before.follow? windingDown = some after ∧
        after.stage = .returned ∧ after.pool.AnswersPlainly ∧ after.pool.phases.length = 1 :=
      ⟨_, rfl, rfl, _, rfl, rfl, by decide, rfl⟩
    have hreachable := Reachable.start.follow? hbefore
    obtain ⟨hstilled, hlength⟩ := hscans hreachable htoken hafter
    obtain ⟨events, hevents⟩ := follow?_pool hafter
    obtain ⟨hpool, -, habandoned⟩ := hpools hreachable.pool htoken hevents
    exact ⟨before, after, hbefore, hafter, hreturned, hstilled, hlength, hpool,
      hworkers ▸ habandoned hplain, (hstilled.abandoned hplain).2⟩
  · obtain ⟨after, hafter⟩ : ∃ after, (Scan.start twoHosts).follow?
        [.cancel, .spawn, .run, .look, .close] = some after := ⟨_, rfl⟩
    exact ⟨after, hafter, hstarts hafter⟩

end Scan

end HeaderScan
