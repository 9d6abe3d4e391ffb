import HeaderScan.Barrier.Session
import Mathlib.Data.List.Nodup

/-!
# When a wait is over

The count of a barrier is that of the guards that were handed out and not given back. A
wait that is unfinished has been notified since its last look whenever the count is zero,
so it is over exactly when it is polled, or begins, while nobody holds a guard.
-/

namespace HeaderScan.Barrier

/-- The guard that was handed out by a command with this answer. -/
def Command.taken : Command → Reply → List Nat
  | .register _, .number guard => [guard]
  | _, _ => []

/-- The guard that was given back, dropped or by a panic, by a command with this answer. -/
def Command.returned : Command → Reply → List Nat
  | .drop guard, .dropped | .panic guard, .panicked => [guard]
  | _, _ => []

/-! ## What a command can do -/

namespace Session

/-- What a command does to a session, and its answer. -/
inductive Stepped (session : Session) : Command → Session → Reply → Prop where
  /-- A guard is handed out. -/
  | register {handle : Nat} :
      Stepped session (.register handle)
        { session with
          barrier := session.barrier.register
          guards := session.guards ++ [true] } (.number session.guards.length)
  /-- A guard that was held is given back. -/
  | release {command : Command} {reply : Reply} {guard : Nat}
      (hguard : session.guards[guard]? = some true) (htaken : command.taken reply = [])
      (hreturned : command.returned reply = [guard]) :
      Stepped session command
        { session with
          barrier := session.barrier.release
          guards := session.guards.set guard false } reply
  /-- A wait begins. -/
  | wait {handle : Nat} :
      Stepped session (.wait handle)
        { session with waits := session.waits ++ [session.barrier.look] }
        (.began session.waits.length (session.barrier.look = .done))
  /-- A wait goes on. -/
  | poll {index : Nat} {wait : Wait} (hwait : session.waits[index]? = some wait) :
      Stepped session (.poll index)
        { session with waits := session.waits.set index (session.barrier.poll wait) }
        (.polled (session.barrier.poll wait = .done))
  /-- No guard and no wait is touched. -/
  | keep {command : Command} {reply : Reply} (handles : Nat)
      (htaken : command.taken reply = []) (hreturned : command.returned reply = []) :
      Stepped session command { session with handles } reply

/-- A command that needs a handle does nothing without it. -/
private theorem stepped_withHandle {session next : Session} {command : Command} {reply : Reply}
    {handle : Nat} (h : session.Stepped command next reply)
    (htaken : command.taken .noHandle = []) (hreturned : command.returned .noHandle = []) :
    session.Stepped command (session.withHandle handle (next, reply)).1
      (session.withHandle handle (next, reply)).2 := by
  by_cases hhandle : handle < session.handles
  · simpa only [withHandle, if_pos hhandle] using h
  · simpa only [withHandle, if_neg hhandle] using .keep session.handles htaken hreturned

/-- A guard is given back if it is held, in the same way whatever the answer is. -/
private theorem stepped_giveBack {session : Session} {command : Command} {reply : Reply}
    {guard : Nat} (htaken : ∀ reply, command.taken reply = [])
    (hreturned : command.returned reply = [guard])
    (hnone : command.returned .noGuard = []) :
    session.Stepped command (session.giveBack guard reply).1 (session.giveBack guard reply).2 := by
  cases hguard : session.guards[guard]? with
  | none => simpa [giveBack, List.getD, hguard] using .keep session.handles (htaken _) hnone
  | some isHeld =>
    cases isHeld with
    | false => simpa [giveBack, List.getD, hguard] using .keep session.handles (htaken _) hnone
    | true =>
      simpa [giveBack, List.getD, hguard] using .release hguard (htaken _) hreturned

/-- Every command acts in one of these ways. -/
theorem stepped_step (session : Session) (command : Command) :
    session.Stepped command (session.step command).1 (session.step command).2 := by
  cases command with
  | register handle => exact stepped_withHandle .register rfl rfl
  | clone handle => exact stepped_withHandle (.keep _ rfl rfl) rfl rfl
  | outstanding handle => exact stepped_withHandle (.keep session.handles rfl rfl) rfl rfl
  | wait handle => exact stepped_withHandle .wait rfl rfl
  | poll index =>
    cases hwait : session.waits[index]? with
    | none => simpa [step, hwait] using .keep session.handles rfl rfl
    | some wait => simpa [step, hwait] using .poll hwait
  | drop guard => exact stepped_giveBack (fun reply => by cases reply <;> rfl) rfl rfl
  | panic guard => exact stepped_giveBack (fun reply => by cases reply <;> rfl) rfl rfl

end Session

/-! ## Guards and waits -/

/-- A look ends a wait exactly when nobody holds a guard. -/
theorem look_eq_done_iff {barrier : Barrier} :
    barrier.look = .done ↔ barrier.outstanding = 0 := by
  by_cases hnone : barrier.outstanding = 0 <;> simp [look, hnone]

/-- A wait may be over, or has missed nothing: it has not seen the last notification when
nobody holds a guard. -/
def Wait.Attentive (barrier : Barrier) : Wait → Prop
  | .done => True
  | .since seen => seen ≤ barrier.notifications ∧
      (barrier.outstanding = 0 → seen < barrier.notifications)

variable {barrier : Barrier} {wait : Wait}

/-- A wait has missed nothing when it has just looked. -/
theorem attentive_look : barrier.look.Attentive barrier := by
  by_cases hnone : barrier.outstanding = 0
  · simp [look, hnone, Wait.Attentive]
  · simp [look, hnone, Wait.Attentive]

/-- An attentive wait that goes on is over exactly when nobody holds a guard. -/
theorem Wait.Attentive.poll_eq_done_iff {seen : Nat}
    (h : (Wait.since seen).Attentive barrier) :
    barrier.poll (.since seen) = .done ↔ barrier.outstanding = 0 := by
  by_cases hnew : seen < barrier.notifications
  · rw [poll, if_pos hnew]
    exact look_eq_done_iff
  · rw [poll, if_neg hnew]
    have hsome : barrier.outstanding ≠ 0 := fun hnone => hnew (h.2 hnone)
    simp [hsome]

/-- A wait that goes on stays attentive. -/
theorem Wait.Attentive.poll (h : wait.Attentive barrier) :
    (barrier.poll wait).Attentive barrier := by
  cases wait with
  | done => trivial
  | since seen =>
    by_cases hnew : seen < barrier.notifications
    · rw [Barrier.poll, if_pos hnew]
      exact attentive_look
    · rwa [Barrier.poll, if_neg hnew]

/-- A guard that is handed out makes no wait miss anything. -/
theorem Wait.Attentive.register (h : wait.Attentive barrier) :
    wait.Attentive barrier.register := by
  cases wait with
  | done => trivial
  | since seen => exact ⟨h.1, by simp [Barrier.register]⟩

/-- A guard that is given back notifies every wait if it was the last. -/
theorem Wait.Attentive.release (h : wait.Attentive barrier) (hheld : barrier.outstanding ≠ 0) :
    wait.Attentive barrier.release := by
  cases wait with
  | done => trivial
  | since seen =>
    have hseen := h.1
    by_cases hlast : barrier.outstanding = 1
    · have hnew : seen < barrier.release.notifications := by
        rw [Barrier.release, if_pos hlast]
        exact Nat.lt_succ_of_le hseen
      exact ⟨Nat.le_of_lt hnew, fun _ => hnew⟩
    · have hsame : barrier.release.notifications = barrier.notifications := if_neg hlast
      refine ⟨hsame ▸ hseen, fun hnone => ?_⟩
      have hleft : barrier.outstanding - 1 = 0 := hnone
      omega

/-! ## The story of a barrier -/

/-- A session and the guards that it has handed out and taken back so far. -/
structure Story where
  /-- The session. -/
  session : Session
  /-- The guards that were handed out through any handle, by number, in order. -/
  taken : List Nat
  /-- The guards that were given back, in order. -/
  returned : List Nat

namespace Story

/-- A new barrier with nothing before it. -/
def start : Story := ⟨.start, [], []⟩

/-- The story goes on with a command. -/
def tell (story : Story) (command : Command) : Story :=
  let (session, reply) := story.session.step command
  ⟨session, story.taken ++ command.taken reply, story.returned ++ command.returned reply⟩

/-- The story of these commands. -/
def ofCommands (commands : List Command) : Story := commands.foldl tell start

/-- The guards that were handed out and not given back. -/
def held (story : Story) : List Nat := story.taken.filter (· ∉ story.returned)

/-- What the guards, the waits and the count of a barrier agree on. -/
structure Counted (story : Story) : Prop where
  /-- Guards are numbered as they are handed out. -/
  taken : story.taken = List.range story.session.guards.length
  /-- No guard is given back twice. -/
  nodup : story.returned.Nodup
  /-- A guard is held until it is given back. -/
  returned : ∀ guard, guard ∈ story.returned ↔ story.session.guards[guard]? = some false
  /-- The count went up with every guard that was handed out, and down with every guard that
  was given back. -/
  outstanding : story.session.barrier.outstanding + story.returned.length = story.taken.length
  /-- No wait has missed anything. -/
  waits : ∀ wait ∈ story.session.waits, wait.Attentive story.session.barrier

variable {story : Story} {command : Command}

namespace Counted

/-- No guard is handed out twice. -/
theorem nodup_taken (h : story.Counted) : story.taken.Nodup :=
  h.taken ▸ List.nodup_range

/-- Only guards that were handed out are given back. -/
theorem returned_subset (h : story.Counted) : story.returned ⊆ story.taken := by
  intro guard hmem
  obtain ⟨hlt, -⟩ := List.getElem?_eq_some_iff.mp ((h.returned guard).mp hmem)
  rw [h.taken]
  exact List.mem_range.mpr hlt

/-- Every guard that was handed out was given back or is held. -/
theorem perm (h : story.Counted) : (story.returned ++ story.held).Perm story.taken := by
  have hreturned : story.returned.Perm (story.taken.filter (· ∈ story.returned)) := by
    refine (List.perm_ext_iff_of_nodup h.nodup (h.nodup_taken.filter _)).mpr fun guard => ?_
    have hsubset : guard ∈ story.returned → guard ∈ story.taken := fun h' => h.returned_subset h'
    simpa using hsubset
  refine (hreturned.append_right _).trans ?_
  simpa [held] using List.filter_append_perm (· ∈ story.returned) story.taken

/-- The count is that of the guards that are held. -/
theorem outstanding_eq (h : story.Counted) :
    story.session.barrier.outstanding = story.held.length := by
  have hlength := h.perm.length_eq
  have hcount := h.outstanding
  rw [List.length_append] at hlength
  omega

/-- The count is zero exactly when nobody holds a guard. -/
theorem outstanding_eq_zero_iff (h : story.Counted) :
    story.session.barrier.outstanding = 0 ↔ story.held = [] := by
  rw [h.outstanding_eq, List.length_eq_zero_iff]

/-- The guards that are held are those that the session can take back. -/
theorem mem_held_iff (h : story.Counted) {guard : Nat} :
    guard ∈ story.held ↔ story.session.guards[guard]? = some true := by
  have hreturned := h.returned guard
  simp only [held, List.mem_filter, decide_eq_true_eq, hreturned, h.taken, List.mem_range]
  cases hguard : story.session.guards[guard]? with
  | none => simpa using hguard
  | some isHeld =>
    obtain ⟨hlt, -⟩ := List.getElem?_eq_some_iff.mp hguard
    cases isHeld <;> simp [hlt]

/-- At the start nobody holds a guard and nobody waits. -/
theorem start : Story.start.Counted where
  taken := rfl
  nodup := .nil
  returned := by simp [Story.start, Session.start]
  outstanding := rfl
  waits := by simp [Story.start, Session.start]

/-- A new guard is held, under the next number. -/
theorem register (h : story.Counted) :
    Counted
      ⟨{ story.session with
          barrier := story.session.barrier.register
          guards := story.session.guards ++ [true] },
        story.taken ++ [story.session.guards.length], story.returned⟩ where
  taken := by simp [h.taken, List.range_succ]
  nodup := h.nodup
  returned guard := by
    rw [h.returned]
    rcases Nat.lt_trichotomy guard story.session.guards.length with hlt | rfl | hgt
    · rw [List.getElem?_append_left hlt]
    · simp
    · have hold : story.session.guards[guard]? = none :=
        List.getElem?_eq_none (Nat.le_of_lt hgt)
      have hnew : (story.session.guards ++ [true])[guard]? = none :=
        List.getElem?_eq_none (by rw [List.length_append]; exact hgt)
      rw [hold, hnew]
  outstanding := by
    have hcount := h.outstanding
    simp only [Barrier.register, List.length_append, List.length_singleton]
    omega
  waits wait hmem := (h.waits wait hmem).register

/-- A guard that is held can be given back once. -/
theorem release (h : story.Counted) {guard : Nat}
    (hguard : story.session.guards[guard]? = some true) :
    Counted
      ⟨{ story.session with
          barrier := story.session.barrier.release
          guards := story.session.guards.set guard false },
        story.taken, story.returned ++ [guard]⟩ := by
  have hheld : story.session.barrier.outstanding ≠ 0 := by
    rw [Ne, h.outstanding_eq_zero_iff]
    exact List.ne_nil_of_mem (h.mem_held_iff.mpr hguard)
  have hfresh : guard ∉ story.returned := by simp [h.returned, hguard]
  obtain ⟨hlt, -⟩ := List.getElem?_eq_some_iff.mp hguard
  constructor
  case taken => simpa using h.taken
  case nodup => exact h.nodup.append (List.nodup_singleton guard) (by simpa using hfresh)
  case returned =>
    intro other
    rcases eq_or_ne guard other with rfl | hne
    · simp [hlt]
    · simp [hne, hne.symm, h.returned]
  case outstanding =>
    have hcount := h.outstanding
    simp only [Barrier.release, List.length_append, List.length_singleton]
    omega
  case waits => exact fun wait hmem => (h.waits wait hmem).release hheld

/-- Other waits may take the place of those that there are, if they have missed nothing. -/
theorem of_waits (h : story.Counted) {waits : List Wait}
    (hwaits : ∀ wait ∈ waits, wait.Attentive story.session.barrier) :
    Counted { story with session := { story.session with waits } } :=
  { h with waits := hwaits }

/-- Whatever a command does, the guards and the waits stay accounted for. -/
theorem stepped {next : Session} {reply : Reply} (h : story.Counted)
    (hstep : story.session.Stepped command next reply) :
    Counted ⟨next, story.taken ++ command.taken reply, story.returned ++ command.returned reply⟩ := by
  cases hstep with
  | register => simpa [Command.taken, Command.returned] using h.register
  | release hguard hnone hsome =>
    rw [hnone, hsome, List.append_nil]
    exact h.release hguard
  | wait =>
    have hwaits : ∀ wait ∈ story.session.waits ++ [story.session.barrier.look],
        wait.Attentive story.session.barrier := by
      intro wait hmem
      rcases List.mem_append.mp hmem with hmem | hmem
      · exact h.waits wait hmem
      · rw [List.mem_singleton.mp hmem]
        exact attentive_look
    simpa [Command.taken, Command.returned] using h.of_waits hwaits
  | @poll index wait hwait =>
    have hwaits : ∀ other ∈ story.session.waits.set index (story.session.barrier.poll wait),
        other.Attentive story.session.barrier := by
      intro other hmem
      rcases List.mem_or_eq_of_mem_set hmem with hmem | rfl
      · exact h.waits other hmem
      · exact (h.waits wait (List.mem_of_getElem? hwait)).poll
    simpa [Command.taken, Command.returned] using h.of_waits hwaits
  | keep handles hnone hsome =>
    rw [hnone, hsome, List.append_nil, List.append_nil]
    exact ⟨h.taken, h.nodup, h.returned, h.outstanding, h.waits⟩

/-- Every command keeps the guards and the waits accounted for. -/
theorem tell (h : story.Counted) (command : Command) : (story.tell command).Counted :=
  h.stepped (story.session.stepped_step command)

end Counted

/-- In every story the guards and the waits are accounted for. -/
theorem counted_ofCommands (commands : List Command) : (ofCommands commands).Counted := by
  suffices hall : ∀ story : Story, story.Counted → (commands.foldl tell story).Counted from
    hall start .start
  induction commands with
  | nil => exact fun story h => h
  | cons command rest ih => exact fun story h => ih (story.tell command) (h.tell command)

/-! ## Unfinished waits -/

/-- What the next command is answered, by the guards that are held. -/
structure Exact (story : Story) : Prop where
  /-- Every guard that was handed out was given back or is held, and is no other guard. -/
  guards : (story.returned ++ story.held).Perm story.taken ∧ story.taken.Nodup
  /-- The count never falls below zero: each guard that was given back had been counted. -/
  balance : story.session.barrier.outstanding + story.returned.length = story.taken.length
  /-- Every handle tells how many guards are held. -/
  outstanding : ∀ handle < story.session.handles,
    story.session.step (.outstanding handle) = (story.session, .number story.held.length)
  /-- A guard is given back, dropped or by a panic, exactly when it is held. -/
  giveBack : ∀ guard,
    (story.session.step (.drop guard)).2 = (if guard ∈ story.held then .dropped else .noGuard) ∧
    (story.session.step (.panic guard)).2 = (if guard ∈ story.held then .panicked else .noGuard)
  /-- A wait is over as it begins exactly when nobody holds a guard. -/
  wait : ∀ handle < story.session.handles, (story.session.step (.wait handle)).2 =
    .began story.session.waits.length (story.held = [])
  /-- A poll finishes an unfinished wait exactly when nobody holds a guard. -/
  poll : ∀ index seen, story.session.waits[index]? = some (.since seen) →
    (story.session.step (.poll index)).2 = .polled (story.held = [])

/-- The answers follow from what is accounted for. -/
theorem Counted.exact (h : story.Counted) : story.Exact where
  guards := ⟨h.perm, h.nodup_taken⟩
  balance := h.outstanding
  outstanding handle hhandle := by
    simp [Session.step, Session.withHandle, hhandle, h.outstanding_eq]
  giveBack guard := by
    have hheld : guard ∈ story.held ↔ _ := h.mem_held_iff
    cases hguard : story.session.guards[guard]? with
    | none => simp [Session.step, Session.giveBack, List.getD, hguard, hheld]
    | some isHeld =>
      cases isHeld <;> simp [Session.step, Session.giveBack, List.getD, hguard, hheld]
  wait handle hhandle := by
    simp [Session.step, Session.withHandle, hhandle, Barrier.wait, look_eq_done_iff,
      h.outstanding_eq_zero_iff]
  poll index seen hwait := by
    have hattentive := h.waits _ (List.mem_of_getElem? hwait)
    simp [Session.step, hwait, hattentive.poll_eq_done_iff, h.outstanding_eq_zero_iff]

variable {index seen : Nat} {wait : Wait}

/-- Only a poll of its own lets a wait go on. -/
theorem waits_tell_of_ne (hwait : story.session.waits[index]? = some wait)
    (hne : command ≠ .poll index) : (story.tell command).session.waits[index]? = some wait := by
  have hstep := story.session.stepped_step command
  change (story.session.step command).1.waits[index]? = some wait
  generalize (story.session.step command).1 = next at hstep ⊢
  generalize (story.session.step command).2 = reply at hstep
  cases hstep with
  | register | release | keep => exact hwait
  | wait =>
    obtain ⟨hlt, -⟩ := List.getElem?_eq_some_iff.mp hwait
    exact (List.getElem?_append_left hlt).trans hwait
  | @poll other _ _ =>
    have hother : other ≠ index := fun heq => hne (heq ▸ rfl)
    exact (List.getElem?_set_ne hother).trans hwait

/-- A wait that is polled goes on. -/
theorem waits_tell_poll (hwait : story.session.waits[index]? = some wait) :
    (story.tell (.poll index)).session.waits[index]? =
      some (story.session.barrier.poll wait) := by
  obtain ⟨hlt, -⟩ := List.getElem?_eq_some_iff.mp hwait
  change (story.session.step (.poll index)).1.waits[index]? = _
  simp [Session.step, hwait, List.getElem?_set_self hlt]

/-- A command finishes an unfinished wait exactly when it polls it while nobody holds a
guard. -/
theorem waits_tell_cases (h : story.Counted)
    (hwait : story.session.waits[index]? = some (.since seen)) (command : Command) :
    (story.tell command).session.waits[index]? = some .done ∧
        command = .poll index ∧ story.held = [] ∨
      ∃ next, (story.tell command).session.waits[index]? = some (.since next) ∧
        ¬ (command = .poll index ∧ story.held = []) := by
  by_cases hpoll : command = .poll index
  · have hdone := (h.waits _ (List.mem_of_getElem? hwait)).poll_eq_done_iff
    rw [hpoll, waits_tell_poll hwait, ← h.outstanding_eq_zero_iff, ← hdone]
    cases story.session.barrier.poll (.since seen) <;> simp
  · exact .inr ⟨seen, waits_tell_of_ne hwait hpoll, fun hboth => hpoll hboth.1⟩

/-- A wait that is over stays so. -/
theorem waits_foldl_of_done (hwait : story.session.waits[index]? = some .done)
    (later : List Command) :
    (later.foldl tell story).session.waits[index]? = some .done := by
  induction later generalizing story with
  | nil => exact hwait
  | cons command rest ih =>
    refine ih ?_
    by_cases hpoll : command = .poll index
    · rw [hpoll, waits_tell_poll hwait]
      rfl
    · exact waits_tell_of_ne hwait hpoll

/-- An unfinished wait is over after some commands exactly when one of them polled it while
nobody held a guard. -/
theorem waits_foldl_iff (h : story.Counted)
    (hwait : story.session.waits[index]? = some (.since seen)) (later : List Command) :
    (later.foldl tell story).session.waits[index]? = some .done ↔
      ∃ earlier rest, later = earlier ++ .poll index :: rest ∧
        (earlier.foldl tell story).held = [] := by
  induction later generalizing story seen with
  | nil => simp [hwait]
  | cons command later ih =>
    rw [List.foldl_cons]
    obtain ⟨hdone, hpoll, hheld⟩ | ⟨next, hnext, hnot⟩ := waits_tell_cases h hwait command
    · exact iff_of_true (waits_foldl_of_done hdone later) ⟨[], later, by rw [hpoll]; rfl, hheld⟩
    · rw [ih (h.tell command) hnext]
      constructor
      · rintro ⟨earlier, rest, rfl, hheld⟩
        exact ⟨command :: earlier, rest, rfl, hheld⟩
      · rintro ⟨earlier, rest, heq, hheld⟩
        cases earlier with
        | nil => exact absurd ⟨(List.cons.inj heq).1, hheld⟩ hnot
        | cons first earlier =>
          obtain ⟨rfl, rfl⟩ := List.cons.inj heq
          exact ⟨earlier, rest, rfl, hheld⟩

end Story

/-- After any commands the count is that of the guards that were handed out and not given
back, and a wait that begins or is polled is over exactly when there are none. So an
unfinished wait is over after more commands exactly when one of them polled it at such a
moment, whatever happened since its last poll and however often the count was zero between
two polls. -/
theorem waits_exact (commands : List Command) :
    (Story.ofCommands commands).Exact ∧
      ∀ index seen,
        (Story.ofCommands commands).session.waits[index]? = some (.since seen) →
        ∀ later,
          (Story.ofCommands (commands ++ later)).session.waits[index]? = some .done ↔
            ∃ earlier rest, later = earlier ++ .poll index :: rest ∧
              (Story.ofCommands (commands ++ earlier)).held = [] := by
  have hcounted := Story.counted_ofCommands commands
  refine ⟨hcounted.exact, fun index seen hwait later => ?_⟩
  simp only [Story.ofCommands, List.foldl_append]
  exact Story.waits_foldl_iff hcounted hwait later

/-- A wait that misses that the count is zero for a moment is over at the next such moment. -/
theorem waits_exact_transient :
    let commands : List Command := [.register 0, .wait 0, .drop 0, .clone 0, .register 1]
    (Story.ofCommands commands).session.waits[0]? = some (.since 0) ∧
      (Story.ofCommands commands).session.step (.outstanding 1) =
        ((Story.ofCommands commands).session, .number 1) ∧
      (Story.ofCommands (commands ++ [.poll 0])).session.waits[0]? ≠ some .done ∧
      (Story.ofCommands (commands ++ [.poll 0, .panic 1, .poll 0])).session.waits[0]? =
        some .done := by
  intro commands
  have hwait : (Story.ofCommands commands).session.waits[0]? = some (.since 0) := rfl
  obtain ⟨hexact, hwaits⟩ := waits_exact commands
  refine ⟨hwait, hexact.outstanding 1 (by decide), fun hdone => ?_, ?_⟩
  · obtain ⟨earlier, rest, heq, hheld⟩ := (hwaits 0 0 hwait _).mp hdone
    cases earlier with
    | nil => exact absurd hheld (by decide)
    | cons => simp at heq
  · exact (hwaits 0 0 hwait _).mpr ⟨[.poll 0, .panic 1], [], rfl, rfl⟩

end HeaderScan.Barrier
