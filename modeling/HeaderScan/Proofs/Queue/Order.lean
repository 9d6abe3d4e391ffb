import HeaderScan.Proofs.Queue.Story

/-!
# First in, first out

Whatever operations a producer and its consumers start, take back and leave unfinished, the
hosts that were received, those in the queue and those that wait to be put in are, in this
order, the hosts that were enqueued, without those that were taken back or refused.
-/

namespace HeaderScan.WorkQueue

namespace Story.Accounted

variable {story : Story} {endings : List Ending} {operation : Pending} {ending : Ending}

/-- No two operations have the same number. -/
theorem nodup (h : story.Accounted endings) :
    ((endings.map (·.operation) ++ (story.withdrawn ++ story.session.pending)).map (·.id)).Nodup := by
  refine (h.perm.map _).nodup_iff.mpr ?_
  exact List.Pairwise.map _ (fun _ _ hlt => Nat.ne_of_lt hlt) h.sorted

/-- The numbers of the operations that were refused are those of their ends. -/
theorem refused_eq (h : story.Accounted endings) :
    (story.completed.filter (·.outcome.isRefused)).map (·.id) =
      (endings.filter (·.outcome.isRefused)).map (·.operation.id) := by
  rw [h.completed, List.filter_map, List.map_map]
  rfl

/-- An operation that waits has not come to nothing. -/
theorem not_mem_voided_of_pending (h : story.Accounted endings)
    (hmem : operation ∈ story.session.pending) : operation.id ∉ story.voided := by
  have hnodup := h.nodup
  simp only [List.map_append, List.map_map] at hnodup
  obtain ⟨-, hrest, hended⟩ := List.nodup_append.mp hnodup
  obtain ⟨-, -, hwithdrawn⟩ := List.nodup_append.mp hrest
  have hpending := List.mem_map_of_mem (f := (·.id)) hmem
  rw [voided, h.refused_eq, List.mem_append, not_or]
  refine ⟨fun hvoided => hwithdrawn _ hvoided _ hpending rfl, fun hvoided => ?_⟩
  obtain ⟨ending, hending, hid⟩ := List.mem_map.mp hvoided
  have hfinished := List.mem_map_of_mem (f := (·.operation.id)) (List.mem_filter.mp hending).1
  exact hended _ hfinished _ (List.mem_append_right _ hpending) hid

/-- An operation that has finished has come to nothing just when it was refused. -/
theorem mem_voided_of_ended (h : story.Accounted endings) (hmem : ending ∈ endings) :
    ending.operation.id ∈ story.voided ↔ ending.outcome.isRefused = true := by
  have hnodup := h.nodup
  simp only [List.map_append, List.map_map] at hnodup
  obtain ⟨hended, -, hrest⟩ := List.nodup_append.mp hnodup
  have hfinished := List.mem_map_of_mem (f := (·.operation.id)) hmem
  rw [voided, h.refused_eq, List.mem_append]
  constructor
  · rintro (hwithdrawn | hrefused)
    · exact absurd rfl (hrest _ hfinished _ (List.mem_append_left _ hwithdrawn))
    · obtain ⟨other, hother, hid⟩ := List.mem_map.mp hrefused
      obtain ⟨hother, houtcome⟩ := List.mem_filter.mp hother
      rwa [← List.inj_on_of_nodup_map hended hother hmem hid]
  · intro hrefused
    exact .inr (List.mem_map_of_mem (f := (·.operation.id))
      (List.mem_filter.mpr ⟨hmem, hrefused⟩))

/-- An enqueue that has finished was accepted or refused. -/
theorem isEnqueued_eq (h : story.Accounted endings) (hmem : ending ∈ endings) :
    ending.outcome.isEnqueued =
      (ending.operation.request.isEnqueue && !ending.outcome.isRefused) := by
  obtain ⟨met, left, htried⟩ := h.tried ending hmem
  generalize ending.operation.request = request at htried ⊢
  generalize ending.outcome = outcome at htried ⊢
  cases htried <;> rfl

/-- The enqueues that have not come to nothing are those that were accepted and those that
wait, in the order in which they were started. -/
theorem enqueues_kept (h : story.Accounted endings) :
    WorkQueue.enqueues story.kept =
      accepted endings ++ WorkQueue.enqueues story.session.pending := by
  have hsorted : (WorkQueue.enqueues story.kept).Pairwise fun first second =>
      first.id < second.id :=
    h.sorted.sublist (List.filter_sublist.trans List.filter_sublist)
  refine List.Perm.eq_of_pairwise
    (fun first second _ _ hlt hgt => absurd hgt (Nat.lt_asymm hlt)) hsorted h.enqueues ?_
  rw [WorkQueue.enqueues, kept, List.filter_filter]
  refine (h.perm.symm.filter _).trans ?_
  rw [List.filter_append, List.filter_append, List.filter_map]
  have hended : endings.filter ((fun operation : Pending =>
      operation.request.isEnqueue && decide (operation.id ∉ story.voided)) ∘ (·.operation)) =
      endings.filter (·.outcome.isEnqueued) := by
    refine List.filter_congr fun ending hmem => ?_
    simp [h.isEnqueued_eq hmem, h.mem_voided_of_ended hmem]
  have hwithdrawn : story.withdrawn.filter (fun operation =>
      operation.request.isEnqueue && decide (operation.id ∉ story.voided)) = [] := by
    refine List.filter_eq_nil_iff.mpr fun operation hmem => ?_
    have hvoided : operation.id ∈ story.voided :=
      List.mem_append_left _ (List.mem_map_of_mem hmem)
    simp [hvoided]
  have hpending : story.session.pending.filter (fun operation =>
      operation.request.isEnqueue && decide (operation.id ∉ story.voided)) =
      WorkQueue.enqueues story.session.pending := by
    refine List.filter_congr fun operation hmem => ?_
    simp [h.not_mem_voided_of_pending hmem]
  rw [hended, hwithdrawn, hpending]
  exact .refl _

end Story.Accounted

/-- When nothing goes on any more, taking an operation back changes nothing else. -/
theorem Session.Settled.step_cancel {session : Session} {capacity : Nat}
    (h : session.Settled capacity) (id : Nat) :
    session.step (.cancel id) =
      ({ session with
          pending := session.pending.filter (·.id != id)
          commands := session.commands + 1 }, .done, []) := by
  have hstuck : ∀ operation ∈ session.pending.filter (·.id != id),
      Stuck session.queue operation :=
    fun operation hmem => h.stuck operation (List.mem_filter.mp hmem).1
  simp [step, apply, settle, settleWithin_of_stuck hstuck]

/-- A queue is first in, first out for all its consumers together. After any commands, the
hosts that were received, those in the queue and those that wait to be put in are the hosts
that were enqueued, in order, without those whose enqueue was cancelled or refused. Every
operation has finished, was taken back or waits, and never two of these; to cancel one
takes nothing from the queue and leaves nothing in it. -/
theorem hosts_in_order (capacity : Nat) (commands : List Command) :
    let story := Story.ofCommands capacity commands
    received story.completed ++ story.session.queue.items ++ hosts story.session.pending =
        hosts story.kept ∧
      (story.completed.map (·.id) ++
          (story.withdrawn.map (·.id) ++ story.session.pending.map (·.id))).Perm
        (story.started.map (·.id)) ∧
      (story.started.map (·.id)).Nodup ∧
      ∀ id, story.session.step (.cancel id) =
        ({ story.session with
            pending := story.session.pending.filter (·.id != id)
            commands := story.session.commands + 1 }, .done, []) := by
  intro story
  obtain ⟨endings, haccounted⟩ := Story.exists_accounted capacity commands
  have hids := haccounted.perm.map (·.id)
  refine ⟨?_, ?_, hids.nodup_iff.mp haccounted.nodup,
    (Story.settled_ofCommands capacity commands).step_cancel⟩
  · rw [haccounted.hosts, ← hosts_enqueues story.session.pending, ← hosts_append,
      ← haccounted.enqueues_kept, hosts_enqueues]
  · simpa [story, haccounted.completed, Function.comp_def, Ending.completion] using hids

end HeaderScan.WorkQueue
