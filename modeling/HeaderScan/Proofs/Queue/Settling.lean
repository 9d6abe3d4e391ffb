import HeaderScan.Proofs.Queue.Serving

/-!
# Rounds of tries

A round tries every unfinished operation once, and rounds are repeated until none can
finish. What finishes is served one after the other; what is left can not finish, so no
operation is forgotten while it could go on. If no receive stands between two enqueues,
the enqueues finish in the order in which they stand.
-/

namespace HeaderScan.WorkQueue

/-- The operation can not finish yet. -/
def Stuck (queue : WorkQueue Host) (operation : Pending) : Prop :=
  queue.attempt operation.request = none

/-- The receives all stand behind the enqueues. -/
def ReceivesLast (operations : List Pending) : Prop :=
  operations.Pairwise fun first second =>
    first.request.isEnqueue = false → second.request.isEnqueue = false

/-- The receives all stand behind the enqueues, or all before them. -/
def Grouped (operations : List Pending) : Prop :=
  ReceivesLast operations ∨
    operations.Pairwise fun first second =>
      first.request.isEnqueue = true → second.request.isEnqueue = true

variable {queue next after : WorkQueue Host} {operation : Pending}
  {operations pending waiting : List Pending} {endings earlier later : List Ending}

theorem Grouped.sublist (h : Grouped operations) (hsub : waiting.Sublist operations) :
    Grouped waiting :=
  h.imp (List.Pairwise.sublist hsub) (List.Pairwise.sublist hsub)

/-- Operations of one kind are grouped, and another one may come behind them. -/
theorem grouped_append {isEnqueue : Bool}
    (h : ∀ operation ∈ pending, operation.request.isEnqueue = isEnqueue)
    (hlater : operations.length ≤ 1) : Grouped (pending ++ operations) := by
  have hkind {motive : Pending → Pending → Prop}
      (hmotive : ∀ first second, first.request.isEnqueue = isEnqueue → motive first second) :
      (pending ++ operations).Pairwise motive := by
    refine List.pairwise_append.mpr ⟨?_, ?_, fun first hfirst second _ =>
      hmotive first second (h first hfirst)⟩
    · exact List.pairwise_of_forall_mem_list fun first hfirst second _ =>
        hmotive first second (h first hfirst)
    · match operations, hlater with
      | [], _ => exact .nil
      | [operation], _ => exact List.pairwise_singleton _ operation
  cases isEnqueue with
  | true =>
    refine .inl (hkind fun first second htrue hfalse => ?_)
    cases htrue.symm.trans hfalse
  | false =>
    refine .inr (hkind fun first second hfalse htrue => ?_)
    cases htrue.symm.trans hfalse

/-- What follows an enqueue among grouped operations has its receives last. -/
theorem Grouped.receivesLast (h : Grouped (operation :: operations))
    (henqueue : operation.request.isEnqueue = true) : ReceivesLast operations := by
  rcases h with hlast | hfirst
  · exact hlast.of_cons
  · -- Behind an enqueue there are only enqueues.
    refine List.pairwise_of_forall_mem_list fun first hmem second _ hfalse => ?_
    cases (List.rel_of_pairwise_cons hfirst hmem henqueue).symm.trans hfalse

/-- While an enqueue is stuck, no enqueue finishes before a receive. -/
theorem Served.enqueues_eq_nil (h : Served queue endings after)
    (hstuck : Stuck queue operation) (henqueue : operation.request.isEnqueue = true)
    (hlast : ReceivesLast (endings.map (·.operation))) :
    enqueues (endings.map (·.operation)) = [] := by
  cases h with
  | nil => rfl
  | @cons _ _ _ ending later htried =>
    have hfirst : ending.operation.request.isEnqueue = false := by
      rcases hending : ending.operation.request with host | consumer
      · -- An enqueue would be stuck like the other one.
        rcases hoperation : operation.request with other | consumer
        · rw [Stuck, hoperation, attempt_enqueue_eq_none_iff] at hstuck
          have hnone : queue.attempt (.enqueue host) = none :=
            attempt_enqueue_eq_none_iff.mpr hstuck
          rw [← hending, htried.attempt] at hnone
          cases hnone
        · rw [hoperation] at henqueue
          cases henqueue
      · rfl
    apply List.filter_eq_nil_iff.mpr
    rintro second (- | ⟨-, hmem⟩)
    · simp [hfirst]
    · simp [List.rel_of_pairwise_cons hlast hmem hfirst]

/-- What tries leave behind: some operations have finished and the others wait. -/
structure Settling (queue : WorkQueue Host) (pending : List Pending) (endings : List Ending)
    (result : Round) : Prop where
  /-- Those that have finished were served one after the other. -/
  served : Served queue endings result.queue
  /-- Their ends are told in this order. -/
  completed : result.completed = endings.map Ending.completion
  /-- Every operation has finished or waits. -/
  perm : (endings.map (·.operation) ++ result.waiting).Perm pending
  /-- Those that wait stand as before. -/
  waiting : result.waiting.Sublist pending
  /-- Enqueues finish in the order in which they stand. -/
  enqueues : Grouped pending →
    enqueues (endings.map (·.operation)) ++ enqueues result.waiting = enqueues pending

/-- One round. -/
theorem exists_round (queue : WorkQueue Host) (pending : List Pending) :
    ∃ endings, Settling queue pending endings (round queue pending) ∧
      (endings.map (·.operation)).Sublist pending := by
  induction pending generalizing queue with
  | nil => exact ⟨[], ⟨.nil, rfl, .refl _, .refl _, fun _ => rfl⟩, .refl _⟩
  | cons operation later ih =>
    cases hattempt : queue.attempt operation.request with
    | none =>
      obtain ⟨endings, hrest, hsub⟩ := ih queue
      refine ⟨endings, ?_, hsub.cons _⟩
      simp only [round, hattempt]
      refine ⟨hrest.served, hrest.completed, ?_, hrest.waiting.cons_cons _, fun hgrouped => ?_⟩
      · exact List.perm_middle.trans (hrest.perm.cons operation)
      · have horder := hrest.enqueues (hgrouped.sublist (List.sublist_cons_self ..))
        cases henqueue : operation.request.isEnqueue with
        | false => simpa [enqueues, henqueue] using horder
        | true =>
          have hlast := (hgrouped.receivesLast henqueue).sublist hsub
          have hnone := hrest.served.enqueues_eq_nil hattempt henqueue hlast
          simp only [hnone, List.nil_append] at horder ⊢
          simp only [enqueues, List.filter_cons, henqueue, if_true] at horder ⊢
          rw [horder]
    | some result =>
      obtain ⟨outcome, next⟩ := result
      obtain ⟨endings, hrest, hsub⟩ := ih next
      refine ⟨⟨operation, outcome⟩ :: endings, ?_, hsub.cons_cons _⟩
      simp only [round, hattempt]
      refine ⟨.cons (tried_of_attempt hattempt) hrest.served, ?_, hrest.perm.cons _,
        hrest.waiting.cons _, fun hgrouped => ?_⟩
      · simp only [hrest.completed]
        rfl
      · have horder := hrest.enqueues (hgrouped.sublist (List.sublist_cons_self ..))
        cases henqueue : operation.request.isEnqueue <;>
          simpa [enqueues, henqueue] using horder

/-- A round that finishes nothing has tried stuck operations only. -/
theorem round_of_completed_eq_nil (h : (round queue pending).completed = []) :
    (∀ operation ∈ pending, Stuck queue operation) ∧
      round queue pending = ⟨queue, pending, []⟩ := by
  induction pending with
  | nil => simp [round]
  | cons operation later ih =>
    cases hattempt : queue.attempt operation.request with
    | none =>
      simp only [round, hattempt] at h ⊢
      obtain ⟨hstuck, hround⟩ := ih h
      exact ⟨List.forall_mem_cons.mpr ⟨hattempt, hstuck⟩, by simp [hround]⟩
    | some result => simp [round, hattempt] at h

/-- A round passes over stuck operations. -/
theorem round_append_of_stuck (h : ∀ operation ∈ pending, Stuck queue operation)
    (later : List Pending) :
    round queue (pending ++ later) =
      { round queue later with waiting := pending ++ (round queue later).waiting } := by
  induction pending with
  | nil => rfl
  | cons operation pending ih =>
    obtain ⟨hfirst, hrest⟩ := List.forall_mem_cons.mp h
    rw [Stuck] at hfirst
    simp [round, hfirst, ih hrest]

/-- What follows tries goes on from the queue and the operations that they leave. -/
theorem Settling.trans {first second : Round} (hfirst : Settling queue pending earlier first)
    (hsecond : Settling first.queue first.waiting later second) :
    Settling queue pending (earlier ++ later)
      { second with completed := first.completed ++ second.completed } where
  served := hfirst.served.append hsecond.served
  completed := by simp [hfirst.completed, hsecond.completed]
  perm := by
    rw [List.map_append, List.append_assoc]
    exact (hsecond.perm.append_left _).trans hfirst.perm
  waiting := hsecond.waiting.trans hfirst.waiting
  enqueues hgrouped := by
    rw [List.map_append, enqueues_append, List.append_assoc,
      hsecond.enqueues (hgrouped.sublist hfirst.waiting), hfirst.enqueues hgrouped]

/-- Within enough rounds every operation has finished or is stuck. -/
theorem exists_settleWithin (queue : WorkQueue Host) (pending : List Pending) (rounds : Nat)
    (hrounds : pending.length ≤ rounds) :
    ∃ endings, Settling queue pending endings (settleWithin queue pending rounds) ∧
      ∀ operation ∈ (settleWithin queue pending rounds).waiting,
        Stuck (settleWithin queue pending rounds).queue operation := by
  induction rounds generalizing queue pending with
  | zero =>
    obtain rfl : pending = [] := List.length_eq_zero_iff.mp (by omega)
    exact ⟨[], ⟨.nil, rfl, .refl _, .refl _, fun _ => rfl⟩, by simp [settleWithin]⟩
  | succ rounds ih =>
    obtain ⟨first, hfirst, -⟩ := exists_round queue pending
    by_cases hnone : (round queue pending).completed = []
    · obtain ⟨hstuck, hround⟩ := round_of_completed_eq_nil hnone
      simp only [settleWithin, hnone, List.isEmpty_nil, if_true]
      refine ⟨first, hfirst, ?_⟩
      rw [hround]
      exact hstuck
    · -- An operation has finished, so fewer are left for the rounds that are left.
      have hsome : (round queue pending).completed.isEmpty = false := by simpa using hnone
      have hlength := hfirst.perm.length_eq
      have hpos : 0 < first.length := by
        rw [hfirst.completed] at hnone
        exact List.length_pos_iff.mpr fun hnil => hnone (by simp [hnil])
      simp only [List.length_append, List.length_map] at hlength
      obtain ⟨second, hsecond, hstuck⟩ := ih (round queue pending).queue
        (round queue pending).waiting (by omega)
      simp only [settleWithin, hsome, Bool.false_eq_true, if_false]
      exact ⟨first ++ second, hfirst.trans hsecond, hstuck⟩

/-- When nothing goes on any more every operation has finished or is stuck. -/
theorem exists_settle (queue : WorkQueue Host) (pending : List Pending) :
    ∃ endings, Settling queue pending endings (settle queue pending) ∧
      ∀ operation ∈ (settle queue pending).waiting,
        Stuck (settle queue pending).queue operation :=
  exists_settleWithin queue pending pending.length (Nat.le_refl _)

/-- Stuck operations stay as they are, however often they are tried. -/
theorem settleWithin_of_stuck (h : ∀ operation ∈ pending, Stuck queue operation)
    (rounds : Nat) : settleWithin queue pending rounds = ⟨queue, pending, []⟩ := by
  have hround : round queue pending = ⟨queue, pending, []⟩ := by
    simpa [round] using round_append_of_stuck h []
  cases rounds with
  | zero => rfl
  | succ rounds => simp [settleWithin, hround]

/-- An operation behind stuck ones finishes alone if it leaves the queue as it is. -/
theorem settle_concat {outcome : Outcome} (h : ∀ operation ∈ pending, Stuck queue operation)
    (htried : Tried queue operation.request outcome queue) :
    settle queue (pending ++ [operation]) = ⟨queue, pending, [⟨operation.id, outcome⟩]⟩ := by
  have hround : round queue (pending ++ [operation]) =
      ⟨queue, pending, [⟨operation.id, outcome⟩]⟩ := by
    rw [round_append_of_stuck h]
    simp [round, htried.attempt]
  simp [settle, settleWithin, hround, settleWithin_of_stuck h]

end HeaderScan.WorkQueue
