import HeaderScan.Proofs.Scan.Cancelled
import HeaderScan.Scan.Timeline

/-!
# What happens at one moment

Within a moment a timeline makes steps of its scan, one after the other, until none is
possible. The scan is quiescent then, and every probe that is still in flight is due later.
A probe that was due has ended, and no probe that ends comes back, so the probes that are
left count the moments that are still to come.
-/

namespace HeaderScan

namespace Phase

/-- The worker has a host whose probe has not ended. -/
def isUnprobed : Phase → Bool
  | holding _ | probing _ => true
  | _ => false

end Phase

namespace Pool

variable {pool after : Pool} {w v : Nat} {move : Move} {result? : Option ProbeResult}

/-- The host whose probe a worker has in flight. -/
def inFlight? (pool : Pool) (w : Nat) : Option Host := pool.phases[w]?.bind Phase.inFlight?

/-- A worker whose probe is in flight is in that phase. -/
theorem phases_of_inFlight? {host : Host} (h : pool.inFlight? w = some host) :
    pool.phases[w]? = some (.probing host) := by
  obtain ⟨phase, hphase, hprobe⟩ := Option.bind_eq_some_iff.mp h
  cases phase <;> cases hprobe
  exact hphase

/-- The hosts in the queue, and those that were handed out and whose probes have not ended. -/
def unprobed (pool : Pool) : Nat := pool.queue.items.length + pool.phases.countP Phase.isUnprobed

/-- What is unprobed gets less by the probe of a worker that changes its phase, if the queue
and its two phases say so. -/
theorem unprobed_le_of_set {old new : Phase} (hphase : pool.phases[w]? = some old)
    (hphases : after.phases = pool.phases.set w new)
    (hless : after.queue.items.length + new.isUnprobed.toNat + old.inFlight?.toList.length ≤
      pool.queue.items.length + old.isUnprobed.toNat) :
    after.unprobed + (pool.inFlight? w).toList.length ≤ pool.unprobed := by
  have hcount := countP_set_add Phase.isUnprobed hphase new
  rw [unprobed, unprobed, inFlight?, hphases, hphase, Option.bind_some]
  omega

/-- A move brings no probe back, and ends the one that its worker has in flight. -/
theorem Moved.unprobed_le (h : Moved pool w move after) :
    after.unprobed + (pool.inFlight? w).toList.length ≤ pool.unprobed := by
  cases h with
  | listen hphase | retire hphase | heed hphase | finish hphase | call hphase
  | abandon hphase | answer _ hphase | panic hphase =>
    exact unprobed_le_of_set hphase (phases_setPhase pool w _) (Nat.le_refl _)
  | giveUp hphase => exact unprobed_le_of_set hphase (phases_setPhase pool w _) (Nat.le_succ _)
  | send hphase => exact unprobed_le_of_set hphase (phases_deliver pool w _ _) (Nat.le_refl _)
  | refuse hphase => exact unprobed_le_of_set hphase (phases_discard pool w _ _) (Nat.le_refl _)
  | @letGo _ share hphase =>
    cases share <;> exact unprobed_le_of_set hphase (phases_setPhase pool w _) (Nat.le_refl _)
  | take hphase hitems =>
    refine unprobed_le_of_set hphase (phases_setPhase pool w _) ?_
    rw [hitems]
    exact Nat.le_refl _

/-- A move changes the phase of its own worker, and not from a probe to a probe. -/
theorem Moved.exists_set (h : Moved pool w move after) : ∃ old new,
    pool.phases[w]? = some old ∧ after.phases = pool.phases.set w new ∧
      (old.inFlight? = none ∨ new.inFlight? = none) := by
  cases h with
  | listen hphase | retire hphase | heed hphase | take hphase | finish hphase | giveUp hphase
  | abandon hphase | answer _ hphase | panic hphase =>
    exact ⟨_, _, hphase, phases_setPhase pool w _, .inr rfl⟩
  | call hphase => exact ⟨_, _, hphase, phases_setPhase pool w _, .inl rfl⟩
  | send hphase => exact ⟨_, _, hphase, phases_deliver pool w _ _, .inr rfl⟩
  | refuse hphase => exact ⟨_, _, hphase, phases_discard pool w _ _, .inr rfl⟩
  | @letGo _ share hphase =>
    cases share <;> exact ⟨_, _, hphase, phases_setPhase pool w _, .inr rfl⟩

/-- A move neither starts nor ends the probe of another worker. -/
theorem Moved.inFlight?_ne (h : Moved pool w move after) (hv : v ≠ w) :
    after.inFlight? v = pool.inFlight? v := by
  obtain ⟨old, new, -, hphases, -⟩ := h.exists_set
  rw [inFlight?, inFlight?, hphases, List.getElem?_set_ne (Ne.symm hv)]

/-- A worker that has moved and has a probe in flight had none before. -/
theorem Moved.inFlight?_eq_none (h : Moved pool w move after) {host : Host}
    (hsome : after.inFlight? w = some host) : pool.inFlight? w = none := by
  obtain ⟨old, new, hphase, hphases, hone⟩ := h.exists_set
  rw [inFlight?, hphases, getElem?_set_of_some hphase, if_pos rfl, Option.bind_some] at hsome
  rw [inFlight?, hphase, Option.bind_some]
  exact hone.resolve_right (by simp [hsome])

/-- A worker that can move without the end of its probe can advance. -/
theorem Moved.advance?_ne_none_of_inner (h : Moved pool w move after)
    (hinner : (Step.worker w move).endsProbe = false) : pool.advance? result? w ≠ none := by
  refine h.advance?_ne_none_of_ne ?_ ?_
  · rintro status rfl
    cases hinner
  · rintro rfl
    cases hinner

end Pool

/-- The step is the move of a worker. -/
def Step.isMove : Step → Bool
  | .worker _ _ => true
  | _ => false

namespace Scan

variable {scan after : Scan} {step : Step}

/-- The probes that have not ended, those of hosts not yet offered included. -/
def probesLeft (scan : Scan) : Nat := scan.feed.remaining.length + scan.pool.unprobed

/-- A step that is not a worker's leaves the probes in flight alone. -/
theorem Stepped.inFlight?_eq (h : Stepped scan step after)
    (hown : step.isMove = false) (w : Nat) :
    after.pool.inFlight? w = scan.pool.inFlight? w := by
  cases h with
  | spawn =>
    -- A worker that has just started has no probe in flight.
    rw [Pool.inFlight?, Pool.phases_spawn, List.getElem?_append]
    split
    case isTrue => rfl
    case isFalse hw =>
      rw [Pool.inFlight?, List.getElem?_eq_none (Nat.le_of_not_lt hw)]
      cases w - scan.pool.phases.length <;> rfl
  | worker => cases hown
  | _ => rfl

/-- A step that is not a worker's ends no probe and brings none back. -/
theorem Stepped.probesLeft_eq (h : Stepped scan step after)
    (hown : step.isMove = false) : after.probesLeft = scan.probesLeft := by
  cases h with
  | spawn =>
    rw [probesLeft, Pool.unprobed, Pool.phases_spawn, List.countP_append]
    rfl
  | worker => cases hown
  | exhaust _ hfeed | heed _ hfeed | look _ hfeed | refuse _ hfeed | giveUp _ hfeed
  | close _ hfeed =>
    rw [probesLeft, probesLeft, hfeed]
    rfl
  | offer _ hfeed =>
    simp only [probesLeft, Pool.unprobed, hfeed, Feed.remaining, List.length_cons,
      List.length_append, List.length_nil, Pool.phases_mk, Pool.map_phase_workers]
    omega
  | _ => rfl

/-- At the start every host has its probe before it. -/
theorem probesLeft_start (config : ScanConfig) :
    (Scan.start config).probesLeft = config.hosts.length := rfl

end Scan

namespace Timeline

variable {plan : Host → ProbePlan} {timeline middle after : Timeline} {step : Step}
  {steps later : List Step} {w : Nat}

/-! ## Ticks -/

/-- What a step of the scan makes of a timeline: the events are noted, and the account of
the probes is kept when a worker moves. -/
inductive Ticked (plan : Host → ProbePlan) (timeline : Timeline) : Step → Timeline → Prop where
  /-- A step that is not a worker's. -/
  | own {step : Step} {scan : Scan} (events : List (Nat × Response))
      (hown : step.isMove = false) (hstep : timeline.scan.Stepped step scan) :
      Ticked plan timeline step { timeline with scan, events }
  /-- A worker moves. -/
  | worker {w : Nat} {move : Move} {pool : Pool} (hmoved : timeline.scan.pool.Moved w move pool) :
      Ticked plan timeline (.worker w move)
        (({ timeline with scan := { timeline.scan with pool } } : Timeline).noteProbe plan w)

/-- These steps lead from one timeline to the other within a moment. -/
inductive Went (plan : Host → ProbePlan) : Timeline → List Step → Timeline → Prop where
  | nil (timeline : Timeline) : Went plan timeline [] timeline
  | cons {timeline middle after : Timeline} {step : Step} {later : List Step} :
      Ticked plan timeline step middle → Went plan middle later after →
        Went plan timeline (step :: later) after

/-- The account of a probe leaves the scan alone. -/
@[simp] theorem noteProbe_scan (timeline : Timeline) (plan : Host → ProbePlan) (w : Nat) :
    (timeline.noteProbe plan w).scan = timeline.scan := by
  unfold noteProbe
  split <;> rfl

/-- It takes no time. -/
@[simp] theorem noteProbe_now (timeline : Timeline) (plan : Host → ProbePlan) (w : Nat) :
    (timeline.noteProbe plan w).now = timeline.now := by
  unfold noteProbe
  split <;> rfl

/-- A tick is a step of the scan. -/
theorem Ticked.stepped (h : Ticked plan timeline step after) :
    timeline.scan.Stepped step after.scan := by
  cases h with
  | own _ _ hstep => exact hstep
  | worker hmoved =>
    rw [noteProbe_scan]
    exact .worker hmoved

/-- Within a moment no time passes. -/
theorem Ticked.now (h : Ticked plan timeline step after) : after.now = timeline.now := by
  cases h with
  | own => rfl
  | worker => rw [noteProbe_now]

/-- What leads to a timeline is a run of its scan. -/
theorem Went.follow? (h : Went plan timeline steps after) :
    timeline.scan.follow? steps = some after.scan := by
  induction h with
  | nil => rfl
  | cons hfirst _ ih => exact Scan.follow?_cons.mpr ⟨_, hfirst.stepped, ih⟩

/-- One way can go on where another has ended. -/
theorem Went.append (hfirst : Went plan timeline steps middle)
    (hlater : Went plan middle later after) : Went plan timeline (steps ++ later) after := by
  induction hfirst with
  | nil => exact hlater
  | cons htick _ ih => exact .cons htick (ih hlater)

/-! ## The account of the probes -/

/-- A worker probes what its phase says. -/
theorem probed?_eq (timeline : Timeline) (w : Nat) :
    timeline.probed? w = timeline.scan.pool.inFlight? w := by
  rw [probed?, Pool.inFlight?, Pool.getElem?_phases, Option.bind_map]
  rfl

/-- The moment that is found for a worker is its first entry. -/
theorem lookup_eq {α : Type} (log : List (Nat × α)) (w : Nat) :
    log.lookup w = (entriesOf w log).head? := by
  induction log with
  | nil => rfl
  | cons entry log ih =>
    obtain ⟨v, item⟩ := entry
    by_cases hv : v = w
    · subst hv
      simp
    · have hne : (w == v) = false := by simpa using Ne.symm hv
      rw [List.lookup_cons, hne, ih, entriesOf_cons_ne hv]

/-- Every probe in flight, and nothing else, has one moment at which it is due. -/
def Timed (timeline : Timeline) : Prop :=
  ∀ w, (entriesOf w timeline.due).length = (timeline.scan.pool.inFlight? w).toList.length

/-- The account of a worker without a probe is empty. -/
theorem due_noteProbe_of_none (hnone : timeline.scan.pool.inFlight? w = none) :
    (timeline.noteProbe plan w).due = timeline.due.filter (·.1 != w) := by
  rw [noteProbe, probed?_eq, hnone]

/-- A probe that has just started is due after its delay. -/
theorem due_noteProbe_of_some {host : Host}
    (hsome : timeline.scan.pool.inFlight? w = some host) :
    (timeline.noteProbe plan w).due =
      timeline.due ++ [(w, timeline.now + (plan host).delay)] := by
  rw [noteProbe, probed?_eq, hsome]

/-- What is left of a log without one worker. -/
theorem entriesOf_filter_ne {α : Type} (log : List (Nat × α)) (v w : Nat) :
    entriesOf v (log.filter (·.1 != w)) = if v = w then [] else entriesOf v log := by
  simp only [entriesOf, List.filterMap_filter]
  by_cases hv : v = w
  · rw [if_pos hv, List.filterMap_eq_nil_iff]
    intro entry _
    by_cases hentry : entry.1 = w <;> simp [hentry, hv]
  · rw [if_neg hv]
    refine List.filterMap_congr fun entry _ => ?_
    by_cases hentry : entry.1 = v <;> simp [hentry, hv]

/-- The account of a probe touches no other worker. -/
theorem entriesOf_noteProbe_ne (timeline : Timeline) {v : Nat} (hv : v ≠ w) :
    entriesOf v (timeline.noteProbe plan w).due = entriesOf v timeline.due := by
  cases hprobe : timeline.scan.pool.inFlight? w with
  | none => rw [due_noteProbe_of_none hprobe, entriesOf_filter_ne, if_neg hv]
  | some host => simp [due_noteProbe_of_some hprobe, Ne.symm hv]

/-- A tick keeps the account right. -/
theorem Ticked.timed (h : Ticked plan timeline step after) (htimed : timeline.Timed) :
    after.Timed := by
  intro v
  cases h with
  | own _ hown hstep =>
    rw [hstep.inFlight?_eq hown]
    exact htimed v
  | @worker w _ pool hmoved =>
    rw [noteProbe_scan]
    by_cases hv : v = w
    · subst hv
      cases hprobe : pool.inFlight? v with
      | none => rw [due_noteProbe_of_none hprobe, entriesOf_filter_ne, if_pos rfl]; rfl
      | some host =>
        have hidle := htimed v
        rw [hmoved.inFlight?_eq_none hprobe, Option.toList_none, List.length_nil] at hidle
        rw [due_noteProbe_of_some hprobe, entriesOf_append, List.length_append, hidle]
        simp
    · rw [entriesOf_noteProbe_ne _ hv, hmoved.inFlight?_ne hv]
      exact htimed v

/-- A way within a moment keeps the account right. -/
theorem Went.timed (h : Went plan timeline steps after) (htimed : timeline.Timed) :
    after.Timed := by
  induction h with
  | nil => exact htimed
  | cons htick _ ih => exact ih (htick.timed htimed)

/-! ## The probes that are left -/

/-- What has become of the probes within a moment. -/
structure Passed (before after : Timeline) : Prop where
  /-- No time has passed. -/
  now : after.now = before.now
  /-- No probe has come back. -/
  probesLeft_le : after.scan.probesLeft ≤ before.scan.probesLeft
  /-- If none has ended, those in flight are in flight still, and due when they were. -/
  kept : after.scan.probesLeft = before.scan.probesLeft →
    ∀ w host, before.scan.pool.inFlight? w = some host →
      after.scan.pool.inFlight? w = some host ∧
        entriesOf w after.due = entriesOf w before.due

/-- Where nothing happens nothing has passed. -/
theorem Passed.refl (timeline : Timeline) : timeline.Passed timeline :=
  ⟨rfl, Nat.le_refl _, fun _ _ _ hprobe => ⟨hprobe, rfl⟩⟩

/-- One thing may pass after the other. -/
theorem Passed.trans (hfirst : timeline.Passed middle) (hlater : middle.Passed after) :
    timeline.Passed after where
  now := hlater.now.trans hfirst.now
  probesLeft_le := Nat.le_trans hlater.probesLeft_le hfirst.probesLeft_le
  kept heq w host hprobe := by
    have hle := hfirst.probesLeft_le
    have hle' := hlater.probesLeft_le
    obtain ⟨hmiddle, hdue⟩ := hfirst.kept (by omega) w host hprobe
    obtain ⟨hafter, hdue'⟩ := hlater.kept (by omega) w host hmiddle
    exact ⟨hafter, hdue'.trans hdue⟩

/-- A tick ends at most the probe of the worker that moves. -/
theorem Ticked.passed (h : Ticked plan timeline step after) : timeline.Passed after := by
  have hnow := h.now
  cases h with
  | own _ hown hstep =>
    exact {
      now := hnow
      probesLeft_le := Nat.le_of_eq (hstep.probesLeft_eq hown)
      kept := fun _ w _ hprobe => ⟨(hstep.inFlight?_eq hown w).trans hprobe, rfl⟩ }
  | @worker w move pool hmoved =>
    have hless := hmoved.unprobed_le
    refine { now := hnow, probesLeft_le := ?_, kept := ?_ }
    · simp only [noteProbe_scan, Scan.probesLeft]
      omega
    · intro heq v host hprobe
      simp only [noteProbe_scan, Scan.probesLeft] at heq ⊢
      -- The worker that moves has ended its probe, if it had one.
      have hv : v ≠ w := by
        rintro rfl
        rw [hprobe, Option.toList_some, List.length_singleton] at hless
        omega
      exact ⟨(hmoved.inFlight?_ne hv).trans hprobe, entriesOf_noteProbe_ne _ hv⟩

/-- A way within a moment brings no probe back. -/
theorem Went.passed (h : Went plan timeline steps after) : timeline.Passed after := by
  induction h with
  | nil => exact .refl _
  | cons htick _ ih => exact htick.passed.trans ih

/-! ## Going on -/

/-- An attempt to go on has made these steps, and says whether there was one. -/
def Tried (plan : Host → ProbePlan) (timeline : Timeline) (attempt : Timeline × Bool) : Prop :=
  ∃ steps, Went plan timeline steps attempt.1 ∧ attempt.2 = !steps.isEmpty

/-- An attempt without a step changes nothing. -/
theorem Tried.eq_of_false {attempt : Timeline × Bool} (h : Tried plan timeline attempt)
    (hidle : attempt.2 = false) : attempt.1 = timeline := by
  obtain ⟨steps, hsteps, hflag⟩ := h
  cases hsteps with
  | nil => rfl
  | cons => cases hidle.symm.trans hflag

/-- A step and what is tried after it. -/
theorem Tried.cons {attempt : Timeline × Bool} (htick : Ticked plan timeline step middle)
    (h : Tried plan middle attempt) : Tried plan timeline (attempt.1, true) := by
  obtain ⟨steps, hsteps, -⟩ := h
  exact ⟨step :: steps, .cons htick hsteps, rfl⟩

/-- One attempt after the other. -/
theorem Tried.append {first second : Timeline × Bool} (hfirst : Tried plan timeline first)
    (hsecond : Tried plan first.1 second) :
    Tried plan timeline (second.1, first.2 || second.2) := by
  obtain ⟨steps, hsteps, hflag⟩ := hfirst
  obtain ⟨later, hlater, hflag'⟩ := hsecond
  refine ⟨steps ++ later, hsteps.append hlater, ?_⟩
  cases steps <;> simp [hflag, hflag']

/-- Nothing was tried. -/
theorem Tried.nothing (plan : Host → ProbePlan) (timeline : Timeline) :
    Tried plan timeline (timeline, false) := ⟨[], .nil _, rfl⟩

/-- Steps that are not a worker's are tried one by one. -/
theorem takeSteps_tried (plan : Host → ProbePlan) (hown : ∀ step ∈ steps, step.isMove = false)
    (timeline : Timeline) : Tried plan timeline (takeSteps steps timeline) := by
  induction steps generalizing timeline with
  | nil => exact .nothing plan timeline
  | cons step later ih =>
    have hlater := ih fun step hmem => hown step (List.mem_cons_of_mem _ hmem)
    cases hstep : timeline.scan.step? step with
    | none => simpa only [takeSteps, hstep] using hlater timeline
    | some scan =>
      simp only [takeSteps, hstep]
      exact .cons (.own _ (hown step List.mem_cons_self) (Scan.stepped_of_step? hstep)) (hlater _)

/-- When no step was made none was possible. -/
theorem step?_eq_none_of_takeSteps (hidle : (takeSteps steps timeline).2 = false) :
    ∀ step ∈ steps, timeline.scan.step? step = none := by
  induction steps with
  | nil => simp
  | cons step later ih =>
    cases hstep : timeline.scan.step? step with
    | none =>
      rw [takeSteps, hstep] at hidle
      exact List.forall_mem_cons.mpr ⟨hstep, ih hidle⟩
    | some scan =>
      rw [takeSteps, hstep] at hidle
      cases hidle

/-- A worker moves as long as it can. -/
theorem pollWorker_tried (moves : Nat) (timeline : Timeline) :
    Tried plan timeline (pollWorker plan w moves timeline) := by
  induction moves generalizing timeline with
  | zero => exact .nothing plan timeline
  | succ moves ih =>
    cases hadvance : timeline.scan.pool.advance? (timeline.result? plan w) w with
    | none => simpa only [pollWorker, hadvance] using .nothing plan timeline
    | some pool =>
      obtain ⟨move, hmoved⟩ := Pool.exists_moved_of_advance? hadvance
      simp only [pollWorker, hadvance]
      exact .cons (.worker hmoved) (ih _)

/-- A worker that has not moved could not. -/
theorem advance?_eq_none_of_pollWorker {moves : Nat}
    (hidle : (pollWorker plan w (moves + 1) timeline).2 = false) :
    timeline.scan.pool.advance? (timeline.result? plan w) w = none := by
  cases hadvance : timeline.scan.pool.advance? (timeline.result? plan w) w with
  | none => rfl
  | some pool =>
    rw [pollWorker, hadvance] at hidle
    cases hidle

/-- The first worker moves, then the others. -/
theorem pollWorkers_cons (plan : Host → ProbePlan) (w : Nat) (later : List Nat)
    (timeline : Timeline) :
    pollWorkers plan (w :: later) timeline =
      let first := pollWorker plan w (timeline.scan.pool.movesLeft + 1) timeline
      let others := pollWorkers plan later first.1
      (others.1, first.2 || others.2) := rfl

/-- The workers move one after the other. -/
theorem pollWorkers_tried (workers : List Nat) (timeline : Timeline) :
    Tried plan timeline (pollWorkers plan workers timeline) := by
  induction workers generalizing timeline with
  | nil => exact .nothing plan timeline
  | cons w later ih =>
    rw [pollWorkers_cons]
    exact (pollWorker_tried _ timeline).append (ih _)

/-- When no worker has moved none of them could. -/
theorem advance?_eq_none_of_pollWorkers {workers : List Nat}
    (hidle : (pollWorkers plan workers timeline).2 = false) :
    ∀ w ∈ workers, timeline.scan.pool.advance? (timeline.result? plan w) w = none := by
  induction workers with
  | nil => simp
  | cons w later ih =>
    rw [pollWorkers_cons] at hidle
    obtain ⟨hfirst, hothers⟩ := Bool.or_eq_false_iff.mp hidle
    rw [(pollWorker_tried _ timeline).eq_of_false hfirst] at hothers
    exact List.forall_mem_cons.mpr ⟨advance?_eq_none_of_pollWorker hfirst, ih hothers⟩

/-! ## Settling -/

/-- Nothing can happen before time passes. -/
structure Settled (plan : Host → ProbePlan) (timeline : Timeline) : Prop where
  /-- The scan itself has to wait. -/
  steps : ∀ step ∈ ownSteps, timeline.scan.step? step = none
  /-- So has every worker. -/
  workers : ∀ w, timeline.scan.pool.advance? (timeline.result? plan w) w = none

/-- A settled scan is quiescent. -/
theorem Settled.quiescent (h : timeline.Settled plan) : timeline.scan.Quiescent := by
  intro step after hstep
  by_contra hinner
  obtain ⟨hcancel, hends⟩ := not_or.mp hinner
  cases step with
  | worker w move =>
    cases Scan.stepped_of_step? hstep with
    | worker hmoved => exact hmoved.advance?_ne_none_of_inner (by simpa using hends) (h.workers w)
  | cancel => exact hcancel rfl
  | _ => cases hstep.symm.trans (h.steps _ (by decide))

/-- In a settled scan every probe in flight has yet to answer. -/
theorem Settled.result?_eq_none (h : timeline.Settled plan) {host : Host}
    (hprobe : timeline.scan.pool.inFlight? w = some host) :
    timeline.result? plan w = none := by
  cases hresult : timeline.result? plan w with
  | none => rfl
  | some result =>
    have hstuck := h.workers w
    rw [hresult] at hstuck
    exact absurd hstuck (Pool.advance?_ne_none_of_result result (Pool.phases_of_inFlight? hprobe))

/-- Everything is tried once. -/
def tryAll (plan : Host → ProbePlan) (timeline : Timeline) : Timeline × Bool :=
  let first := takeSteps ownSteps timeline
  let second := pollWorkers plan (List.range first.1.scan.pool.workers.length) first.1
  (second.1, first.2 || second.2)

/-- A timeline settles by trying everything again and again. -/
theorem settle_succ (plan : Host → ProbePlan) (rounds : Nat) (timeline : Timeline) :
    settle plan (rounds + 1) timeline =
      if (timeline.tryAll plan).2 then settle plan rounds (timeline.tryAll plan).1
      else (timeline.tryAll plan).1 := rfl

/-- What is tried once are steps that were possible. -/
theorem tryAll_tried (plan : Host → ProbePlan) (timeline : Timeline) :
    Tried plan timeline (timeline.tryAll plan) :=
  (takeSteps_tried plan (by decide) timeline).append (pollWorkers_tried _ _)

/-- When all was tried in vain the timeline is settled. -/
theorem settled_of_tryAll (hidle : (timeline.tryAll plan).2 = false) :
    timeline.Settled plan := by
  obtain ⟨hfirst, hsecond⟩ := Bool.or_eq_false_iff.mp hidle
  have hown : ∀ step ∈ ownSteps, step.isMove = false := by decide
  rw [(takeSteps_tried plan hown timeline).eq_of_false hfirst] at hsecond
  refine ⟨step?_eq_none_of_takeSteps hfirst, fun w => ?_⟩
  by_cases hw : w < timeline.scan.pool.workers.length
  · exact advance?_eq_none_of_pollWorkers hsecond w (List.mem_range.mpr hw)
  · simp [Pool.advance?, List.getElem?_eq_none (Nat.le_of_not_lt hw)]

/-- Within as many rounds as steps are left the timeline settles. -/
theorem settle_spec {config : ScanConfig} {rounds : Nat}
    (hscan : Scan.Reachable config timeline.scan) (hrounds : timeline.scan.stepsLeft < rounds) :
    (∃ steps, Went plan timeline steps (settle plan rounds timeline)) ∧
      (settle plan rounds timeline).Settled plan := by
  induction rounds generalizing timeline with
  | zero => omega
  | succ rounds ih =>
    obtain ⟨steps, hsteps, hflag⟩ := timeline.tryAll_tried plan
    rw [settle_succ]
    cases steps with
    | nil =>
      rw [hflag]
      have hsame := (timeline.tryAll_tried plan).eq_of_false hflag
      rw [List.isEmpty_nil, if_neg (by simp), hsame]
      exact ⟨⟨[], .nil _⟩, settled_of_tryAll hflag⟩
    | cons step steps =>
      have hlength := Scan.follow?_length_le hscan hsteps.follow?
      rw [List.length_cons] at hlength
      obtain ⟨⟨later, hlater⟩, hsettled⟩ := ih (hscan.follow? hsteps.follow?) (by omega)
      rw [hflag, List.isEmpty_cons, if_pos (by simp)]
      exact ⟨⟨_, hsteps.append hlater⟩, hsettled⟩

end Timeline

end HeaderScan
