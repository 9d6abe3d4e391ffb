import HeaderScan.Proofs.Scan.Moment

/-!
# Scans in time come to an end

Every moment but the first and that of the cancellation ends a probe, so a timeline needs no
more moments than it has hosts, and two. What it ends with is a scan that has returned and
that can come about by single steps.
-/

namespace HeaderScan.Timeline

variable {config : ScanConfig} {plan : Host → ProbePlan} {cancelAt : Option Nat}
  {timeline after : Timeline} {w : Nat} {host : Host}

/-- The timeline is one of a configured scan, and the account of its probes is right. -/
structure Sound (config : ScanConfig) (timeline : Timeline) : Prop where
  /-- The scan can come about. -/
  reachable : Scan.Reachable config timeline.scan
  /-- Every probe in flight has its moment. -/
  timed : timeline.Timed

/-- What happens within a moment keeps a timeline sound. -/
theorem Sound.went {steps : List Step} (h : timeline.Sound config)
    (hsteps : Went plan timeline steps after) : after.Sound config :=
  ⟨h.reachable.follow? hsteps.follow?, hsteps.timed h.timed⟩

/-- So does the time that passes. -/
theorem Sound.at_time (h : timeline.Sound config) (time : Nat) :
    ({ timeline with now := time } : Timeline).Sound config :=
  ⟨h.reachable, h.timed⟩

/-- No probe is in flight at the start. -/
theorem sound_start (config : ScanConfig) : (start config).Sound config := ⟨.start, fun _ => rfl⟩

/-! ## What is due -/

/-- A probe in flight is due at one moment. -/
theorem Timed.exists_due (h : timeline.Timed)
    (hprobe : timeline.scan.pool.inFlight? w = some host) :
    ∃ time, entriesOf w timeline.due = [time] := by
  have hone := h w
  rw [hprobe, Option.toList_some, List.length_singleton] at hone
  exact List.length_eq_one_iff.mp hone

/-- A worker with an account has a probe in flight. -/
theorem Timed.exists_probe (h : timeline.Timed) {time : Nat} (hmem : (w, time) ∈ timeline.due) :
    ∃ host, timeline.scan.pool.inFlight? w = some host := by
  have hone := h w
  have hpos := List.length_pos_of_mem (mem_entriesOf.mpr hmem)
  cases hprobe : timeline.scan.pool.inFlight? w with
  | none => simp [hone, hprobe] at hpos
  | some host => exact ⟨host, rfl⟩

/-- A probe has something to say from the moment on at which it is due. -/
theorem result?_eq (timeline : Timeline) (plan : Host → ProbePlan) {time : Nat}
    (hprobe : timeline.scan.pool.inFlight? w = some host)
    (hdue : entriesOf w timeline.due = [time]) :
    timeline.result? plan w = if time ≤ timeline.now then some (plan host).result else none := by
  rw [result?, probed?_eq, hprobe, lookup_eq, hdue]
  rfl

/-- Only a probe in flight has something to say. -/
theorem inFlight?_of_result
    (h : (timeline.result? plan w).isSome = true) :
    ∃ host, timeline.scan.pool.inFlight? w = some host := by
  rw [result?, probed?_eq] at h
  cases hprobe : timeline.scan.pool.inFlight? w with
  | none => simp [hprobe] at h
  | some host => exact ⟨host, rfl⟩

/-- What a probe had to say it still has to say, if no probe has ended. -/
theorem Passed.result?_eq (h : timeline.Passed after) (plan : Host → ProbePlan)
    (htimed : timeline.Timed)
    (hleft : after.scan.probesLeft = timeline.scan.probesLeft)
    (hprobe : timeline.scan.pool.inFlight? w = some host) :
    after.result? plan w = timeline.result? plan w := by
  obtain ⟨time, hdue⟩ := htimed.exists_due hprobe
  obtain ⟨hprobe', hdue'⟩ := h.kept hleft w host hprobe
  rw [timeline.result?_eq plan hprobe hdue, after.result?_eq plan hprobe' (hdue'.trans hdue), h.now]

/-! ## A moment -/

/-- The cancellation is heeded by one step, unless it is not yet time or the token is
cancelled already. -/
theorem heed_cases (plan : Host → ProbePlan) (cancelAt : Option Nat) (timeline : Timeline) :
    (timeline.heed cancelAt = timeline ∧
        (cancelAt.any (· ≤ timeline.now) = true → timeline.scan.pool.isCancelled = true)) ∨
      Ticked plan timeline .cancel (timeline.heed cancelAt) ∧
        (timeline.heed cancelAt).scan.pool.isCancelled = true := by
  unfold heed
  split
  case isTrue htime =>
    have htoken : timeline.scan.pool.isCancelled = false := by
      simpa using (Bool.and_eq_true_iff.mp htime).1
    have hcancel : timeline.cancel =
        { timeline with scan := { timeline.scan with pool := timeline.scan.pool.cancel } } := by
      simp [cancel, Scan.step?, htoken]
    rw [hcancel]
    exact .inr ⟨.own timeline.events rfl (.cancel htoken), rfl⟩
  case isFalse htime => exact .inl ⟨rfl, fun hdue => by simpa [hdue] using htime⟩

/-- There are more rounds than steps that are left. -/
theorem stepsLeft_lt (timeline : Timeline) : timeline.scan.stepsLeft < timeline.stepsLeft := by
  have hcollecting := Bool.toNat_le timeline.scan.isCollecting
  have htoken := Bool.toNat_le (!timeline.scan.pool.isCancelled)
  rw [stepsLeft, Scan.stepsLeft]
  cases timeline.scan.stage <;> simp only [Stage.stepsLeft] <;> omega

/-- What happens at a moment, until the timeline is settled. -/
theorem Sound.moment (h : timeline.Sound config) (plan : Host → ProbePlan)
    (cancelAt : Option Nat) :
    (∃ steps, Went plan timeline steps (timeline.moment plan cancelAt)) ∧
      (timeline.moment plan cancelAt).Settled plan ∧
      (cancelAt.any (· ≤ timeline.now) = true →
        (timeline.moment plan cancelAt).scan.pool.isCancelled = true) := by
  obtain ⟨first, hfirst, htoken⟩ : ∃ steps, Went plan timeline steps (timeline.heed cancelAt) ∧
      (cancelAt.any (· ≤ timeline.now) = true →
        (timeline.heed cancelAt).scan.pool.isCancelled = true) := by
    rcases timeline.heed_cases plan cancelAt with ⟨hsame, htime⟩ | ⟨htick, htoken⟩
    · rw [hsame]
      exact ⟨[], .nil _, htime⟩
    · exact ⟨_, .cons htick (.nil _), fun _ => htoken⟩
  obtain ⟨⟨later, hlater⟩, hsettled⟩ :=
    settle_spec (h.reachable.follow? hfirst.follow?) (stepsLeft_lt _)
  refine ⟨⟨first ++ later, hfirst.append hlater⟩, hsettled, fun htime => ?_⟩
  exact Scan.follow?_induction (fun hbefore hstep => hstep.isCancelled hbefore) (htoken htime)
    hlater.follow?

/-! ## From moment to moment -/

/-- A moment at which something happens: it is time for the cancellation, or a probe is due. -/
def Ready (plan : Host → ProbePlan) (cancelAt : Option Nat) (timeline : Timeline) : Prop :=
  cancelAt.any (· ≤ timeline.now) = true ∨ ∃ w, (timeline.result? plan w).isSome = true

/-- If a probe was due, one has ended, unless the scan has returned. -/
theorem Sound.probesLeft_lt (h : timeline.Sound config) (hready : timeline.Ready plan cancelAt)
    (hgoing : (timeline.moment plan cancelAt).scan.stage ≠ .returned) :
    (timeline.moment plan cancelAt).scan.probesLeft < timeline.scan.probesLeft := by
  obtain ⟨⟨steps, hsteps⟩, hsettled, htoken⟩ := h.moment plan cancelAt
  have hmoment := h.went hsteps
  have hpassed := hsteps.passed
  rcases hready with htime | ⟨w, hresult⟩
  · exact absurd (hsettled.quiescent.returned_of_cancelled hmoment.reachable (htoken htime)) hgoing
  · obtain ⟨host, hprobe⟩ := inFlight?_of_result hresult
    refine Nat.lt_of_le_of_ne hpassed.probesLeft_le fun hleft => ?_
    -- With as many probes left the one that was due would be in flight still.
    have hsame := hpassed.result?_eq plan h.timed hleft hprobe
    rw [hsettled.result?_eq_none (hpassed.kept hleft w host hprobe).1] at hsame
    rw [← hsame] at hresult
    cases hresult

/-- A timeline with a probe in flight has a first moment at which one is due. -/
theorem Timed.exists_nextDue (h : timeline.Timed)
    (hprobe : timeline.scan.pool.inFlight? w = some host) :
    ∃ v due, (v, due) ∈ timeline.due ∧ timeline.nextDue? = some due := by
  obtain ⟨time, hdue⟩ := h.exists_due hprobe
  have hmem : (w, time) ∈ timeline.due := mem_entriesOf.mp (hdue ▸ List.mem_singleton_self time)
  cases hnext : timeline.nextDue? with
  | none =>
    have hnil := List.map_eq_nil_iff.mp (List.min?_eq_none_iff.mp hnext)
    simp [hnil] at hmem
  | some due =>
    obtain ⟨⟨v, due⟩, hfirst, rfl⟩ := List.mem_map.mp (List.min?_mem hnext)
    exact ⟨v, due, hfirst, rfl⟩

/-- At the moment at which a probe is due it has something to say. -/
theorem Timed.ready_at (h : timeline.Timed) (plan : Host → ProbePlan) (cancelAt : Option Nat)
    {due : Nat} (hmem : (w, due) ∈ timeline.due) :
    ({ timeline with now := due } : Timeline).Ready plan cancelAt := by
  obtain ⟨host, hprobe⟩ := h.exists_probe hmem
  obtain ⟨time, hone⟩ := h.exists_due hprobe
  have hdue : entriesOf w timeline.due = [due] := by
    have heq := mem_entriesOf.mpr hmem
    rw [hone, List.mem_singleton] at heq
    rw [hone, heq]
  have hresult := { timeline with now := due }.result?_eq plan hprobe hdue
  rw [if_pos (Nat.le_refl due)] at hresult
  exact .inr ⟨w, by rw [hresult]; rfl⟩

/-- A settled timeline whose scan has not returned goes on to a moment at which something
happens. -/
theorem Sound.exists_next (h : timeline.Sound config) (hsettled : timeline.Settled plan)
    (hgoing : timeline.scan.stage ≠ .returned) (cancelAt : Option Nat) :
    ∃ time, timeline.next? cancelAt = some time ∧
      ({ timeline with now := time } : Timeline).Ready plan cancelAt := by
  have hbusy : timeline.scan.pool.inFlight ≠ [] :=
    fun hidle => hgoing (hsettled.quiescent.returned h.reachable hidle)
  obtain ⟨⟨w, host⟩, hmem⟩ := List.exists_mem_of_ne_nil _ hbusy
  have hprobe : timeline.scan.pool.inFlight? w = some host := by
    have hentry := mem_entriesOf.mpr hmem
    rwa [Pool.inFlight, Pool.entriesOf_shown, Option.mem_toList] at hentry
  obtain ⟨v, due, hdue, hnext⟩ := h.timed.exists_nextDue hprobe
  have hready := h.timed.ready_at plan cancelAt hdue
  rw [next?, hnext]
  cases hcancel : cancelAt.filter (timeline.now < ·) with
  | none => exact ⟨due, rfl, hready⟩
  | some time =>
    refine ⟨min due time, rfl, ?_⟩
    rcases Nat.le_total due time with hle | hle
    · rwa [Nat.min_eq_left hle]
    · rw [Nat.min_eq_right hle]
      have heq := (Option.filter_eq_some_iff.mp hcancel).1
      exact .inl (by simp [heq])

/-- The scan of a timeline has returned, and can come about. -/
structure Finished (config : ScanConfig) (timeline : Timeline) : Prop where
  /-- The scan can come about. -/
  reachable : Scan.Reachable config timeline.scan
  /-- It has returned. -/
  returned : timeline.scan.stage = .returned

/-- A timeline finishes if it does so from the next moment on. -/
theorem Sound.finished_succ (h : timeline.Sound config) {moments : Nat}
    (hlater : (timeline.moment plan cancelAt).scan.stage ≠ .returned → ∀ later : Timeline,
      later.Sound config → later.Ready plan cancelAt →
      later.scan.probesLeft = (timeline.moment plan cancelAt).scan.probesLeft →
      (runFrom plan cancelAt moments later).Finished config) :
    (runFrom plan cancelAt (moments + 1) timeline).Finished config := by
  obtain ⟨⟨steps, hsteps⟩, hsettled, -⟩ := h.moment plan cancelAt
  have hmoment := h.went hsteps
  rw [runFrom]
  by_cases hreturned : (timeline.moment plan cancelAt).scan.stage = .returned
  · rw [if_pos hreturned]
    exact ⟨hmoment.reachable, hreturned⟩
  · obtain ⟨time, hnext, hready⟩ := hmoment.exists_next hsettled hreturned cancelAt
    rw [if_neg hreturned, hnext]
    exact hlater hreturned _ (hmoment.at_time time) hready rfl

/-- A timeline at which something happens finishes within more moments than probes are left. -/
theorem Sound.finished (h : timeline.Sound config) (hready : timeline.Ready plan cancelAt)
    {moments : Nat} (hleft : timeline.scan.probesLeft < moments) :
    (runFrom plan cancelAt moments timeline).Finished config := by
  induction moments generalizing timeline with
  | zero => omega
  | succ moments ih =>
    refine h.finished_succ fun hgoing later hsound hready' heq => ih hsound hready' ?_
    have hless := h.probesLeft_lt hready hgoing
    omega

/-- A run of a timeline finishes, whatever its probes come to, how long they take and when
it is cancelled. -/
theorem run_finished (config : ScanConfig) (plan : Host → ProbePlan) (cancelAt : Option Nat) :
    (run config plan cancelAt).Finished config := by
  refine (sound_start config).finished_succ fun _ later hsound hready heq => ?_
  obtain ⟨⟨steps, hsteps⟩, -⟩ := (sound_start config).moment plan cancelAt
  have hle := hsteps.passed.probesLeft_le
  have hstart := Scan.probesLeft_start config
  refine hsound.finished hready ?_
  change (start config).scan.probesLeft = _ at hstart
  omega

end HeaderScan.Timeline
