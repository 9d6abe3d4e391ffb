import HeaderScan.Proofs.Pool.Moves

/-!
# Shares of a pool

The queue, the result channel and the barrier count the workers that still have a share
of them, and the line before the channel holds exactly the workers that have a response
to send. The counts say when the queue refuses a host, when the channel is closed and
when the barrier opens.
-/

namespace HeaderScan.Pool

/-- Every share is held by a worker or is one of the spare ones of the maker. -/
structure Shared (spare : Nat) (pool : Pool) : Prop where
  /-- The queue counts the workers that can still take a host. -/
  consumers : pool.queue.consumers = pool.phases.countP Phase.hasConsumer + spare
  /-- The channel counts the workers that can still send a response. -/
  senders : pool.results.senders = pool.phases.countP Phase.hasSender + spare
  /-- The barrier counts the workers that hold a guard. -/
  guards : pool.barrier.outstanding = pool.phases.countP Phase.hasGuard

/-- The workers in line are those that have a response to send, each once. -/
structure Lined (pool : Pool) : Prop where
  /-- No worker stands in line twice. -/
  nodup : pool.results.line.Nodup
  /-- A worker stands in line while it has a response to send. -/
  mem_iff : ∀ w, w ∈ pool.results.line ↔ ∃ response, pool.phases[w]? = some (.sending response)

variable {pool after : Pool} {spare w : Nat} {move : Move}

/-- A pool without workers has the shares of its maker. -/
theorem shared_new (capacity slots : Nat) : (Pool.new capacity slots).Shared 1 :=
  ⟨rfl, rfl, rfl⟩

/-- In a pool without workers nobody stands in line. -/
theorem lined_new (capacity slots : Nat) : (Pool.new capacity slots).Lined := by
  constructor
  · exact List.nodup_nil
  · intro w
    simp [Pool.new, Channel.withSlots, phases]

/-- Only a worker that gives its guard back touches the barrier. -/
theorem Moved.barrier (h : Moved pool w move after) : after.barrier = pool.barrier ∨
    ∃ exit, pool.phases[w]? = some (.leaving exit .guard) ∧
      after.barrier = pool.barrier.release := by
  cases h with
  | @letGo exit share hphase =>
    cases share with
    | consumer | sender => exact .inl rfl
    | guard => exact .inr ⟨exit, hphase, rfl⟩
  | _ => exact .inl rfl

/-- A worker without a share of the channel leaves the channel as it is. -/
theorem Moved.results_eq (h : Moved pool w move after)
    (hsender : ∀ phase, pool.phases[w]? = some phase → phase.hasSender = false) :
    after.results = pool.results := by
  cases h with
  | @letGo exit share hphase =>
    cases share with
    | consumer | guard => rfl
    | sender => cases hsender _ hphase
  | listen hphase | retire hphase | heed hphase | take hphase | finish hphase | call hphase
  | giveUp hphase | abandon hphase | answer _ hphase | panic hphase | send hphase
  | refuse hphase =>
    cases hsender _ hphase

namespace Shared

/-- A new worker brings one share of each kind. -/
theorem spawn (h : pool.Shared spare) : pool.spawn.Shared spare where
  consumers := by
    have hconsumers := h.consumers
    simp only [phases_spawn, List.countP_append]
    simp only [Pool.spawn, WorkQueue.addConsumer, hconsumers]
    change _ = _ + 1 + _
    omega
  senders := by
    have hsenders := h.senders
    simp only [phases_spawn, List.countP_append]
    simp only [Pool.spawn, Channel.addSender, hsenders]
    change _ = _ + 1 + _
    omega
  guards := by
    have hguards := h.guards
    simp only [phases_spawn, List.countP_append]
    simp only [Pool.spawn, Barrier.register, hguards]
    rfl

/-- The maker gives its own shares back. -/
theorem release (h : pool.Shared (spare + 1)) : pool.release.Shared spare where
  consumers := by
    have hconsumers := h.consumers
    change pool.queue.consumers - 1 = _
    rw [hconsumers]
    rfl
  senders := by
    have hsenders := h.senders
    change pool.results.senders - 1 = _
    rw [hsenders]
    rfl
  guards := h.guards

/-- When one worker changes its phase and each count changes with it, the counts hold. -/
theorem of_set (h : pool.Shared spare) {old new : Phase} (hphase : pool.phases[w]? = some old)
    (hphases : after.phases = pool.phases.set w new)
    (hconsumers : after.queue.consumers + old.hasConsumer.toNat =
      pool.queue.consumers + new.hasConsumer.toNat)
    (hsenders : after.results.senders + old.hasSender.toNat =
      pool.results.senders + new.hasSender.toNat)
    (hguards : after.barrier.outstanding + old.hasGuard.toNat =
      pool.barrier.outstanding + new.hasGuard.toNat) : after.Shared spare where
  consumers := by
    have hcount := countP_set_add Phase.hasConsumer hphase new
    have hold := h.consumers
    rw [hphases]
    omega
  senders := by
    have hcount := countP_set_add Phase.hasSender hphase new
    have hold := h.senders
    rw [hphases]
    omega
  guards := by
    have hcount := countP_set_add Phase.hasGuard hphase new
    have hold := h.guards
    rw [hphases]
    omega

/-- A worker that lets go of a share is counted no more. -/
theorem letGo (h : pool.Shared spare) {exit : Exit} {share : Share}
    (hphase : pool.phases[w]? = some (.leaving exit share)) :
    (pool.letGo w exit share).Shared spare := by
  have hmem := List.mem_of_getElem? hphase
  cases share with
  | consumer =>
    have hpos := List.countP_pos_iff.mpr ⟨_, hmem, (rfl : Phase.hasConsumer _ = true)⟩
    have hconsumers := h.consumers
    refine h.of_set hphase (phases_setPhase pool w (.leaving exit .sender)) ?_ rfl rfl
    change pool.queue.consumers - 1 + 1 = pool.queue.consumers
    omega
  | sender =>
    have hpos := List.countP_pos_iff.mpr ⟨_, hmem, (rfl : Phase.hasSender _ = true)⟩
    have hsenders := h.senders
    refine h.of_set hphase (phases_setPhase pool w (.leaving exit .guard)) rfl ?_ rfl
    change pool.results.senders - 1 + 1 = pool.results.senders
    omega
  | guard =>
    have hpos := List.countP_pos_iff.mpr ⟨_, hmem, (rfl : Phase.hasGuard _ = true)⟩
    have hguards := h.guards
    refine h.of_set hphase (phases_setPhase pool w (.gone exit)) rfl rfl ?_
    change pool.barrier.outstanding - 1 + 1 = pool.barrier.outstanding
    omega

/-- A move keeps the counts of the shares. -/
theorem moved (h : pool.Shared spare) (hmoved : Moved pool w move after) :
    after.Shared spare := by
  cases hmoved with
  | letGo hphase => exact h.letGo hphase
  | listen hphase | retire hphase | heed hphase | take hphase | finish hphase | call hphase
  | giveUp hphase | abandon hphase | answer _ hphase | panic hphase =>
    exact h.of_set hphase (phases_setPhase pool w _) rfl rfl rfl
  | send hphase => exact h.of_set hphase (phases_deliver pool w _ _) rfl rfl rfl
  | refuse hphase => exact h.of_set hphase (phases_discard pool w _ _) rfl rfl rfl

/-- With no share of the queue left, no worker has one. -/
theorem not_hasConsumer (h : pool.Shared spare) (hnone : pool.queue.consumers = 0)
    {phase : Phase} (hphase : pool.phases[w]? = some phase) : phase.hasConsumer = false := by
  have hcount := h.consumers
  have hzero : pool.phases.countP Phase.hasConsumer = 0 := by omega
  simpa using List.countP_eq_zero.mp hzero _ (List.mem_of_getElem? hphase)

/-- With no share of the channel left, no worker has one. -/
theorem not_hasSender (h : pool.Shared spare) (hnone : pool.results.senders = 0)
    {phase : Phase} (hphase : pool.phases[w]? = some phase) : phase.hasSender = false := by
  have hcount := h.senders
  have hzero : pool.phases.countP Phase.hasSender = 0 := by omega
  simpa using List.countP_eq_zero.mp hzero _ (List.mem_of_getElem? hphase)

/-- With no guard left, no worker has one. -/
theorem not_hasGuard (h : pool.Shared spare) (hnone : pool.barrier.outstanding = 0)
    {phase : Phase} (hphase : pool.phases[w]? = some phase) : phase.hasGuard = false := by
  have hcount := h.guards
  have hzero : pool.phases.countP Phase.hasGuard = 0 := by omega
  simpa using List.countP_eq_zero.mp hzero _ (List.mem_of_getElem? hphase)

end Shared

namespace Lined

/-- A new worker does not stand in line. -/
theorem spawn (h : pool.Lined) : pool.spawn.Lined where
  nodup := h.nodup
  mem_iff v := by
    rw [phases_spawn]
    refine (h.mem_iff v).trans ?_
    by_cases hv : v < pool.phases.length
    · rw [List.getElem?_append_left hv]
    · have hnone : pool.phases[v]? = none := by simpa using hv
      rw [List.getElem?_append_right (by omega), hnone]
      constructor
      · rintro ⟨_, hphase⟩
        cases hphase
      · rintro ⟨_, hphase⟩
        have hmem := List.mem_of_getElem? hphase
        simp at hmem

/-- A worker that had no response to send goes to its end, if it has one now. -/
theorem of_lineUp (h : pool.Lined) {old : Phase} {response : Response}
    (hphase : pool.phases[w]? = some old) (hold : old.response? = none)
    (hphases : after.phases = pool.phases.set w (.sending response))
    (hline : after.results.line = pool.results.line ++ [w]) : after.Lined where
  nodup := by
    rw [hline]
    refine List.nodup_append.mpr ⟨h.nodup, by simp, ?_⟩
    intro v hv u hu heq
    rw [List.mem_singleton.mp hu] at heq
    subst heq
    obtain ⟨response, hsending⟩ := (h.mem_iff v).mp hv
    rw [hphase] at hsending
    cases hsending
    cases hold
  mem_iff v := by
    rw [hline, hphases, getElem?_set_of_some hphase, List.mem_append, List.mem_singleton]
    by_cases hv : v = w
    · simp [hv]
    · simp [hv, h.mem_iff]

/-- A worker that sent or lost its response leaves the line. -/
theorem of_stepOut (h : pool.Lined) {old new : Phase} (hphase : pool.phases[w]? = some old)
    (hnew : new.response? = none) (hphases : after.phases = pool.phases.set w new)
    (hline : after.results.line = pool.results.line.erase w) : after.Lined where
  nodup := by
    rw [hline]
    exact h.nodup.erase w
  mem_iff v := by
    rw [hline, hphases, getElem?_set_of_some hphase, h.nodup.mem_erase_iff, h.mem_iff]
    by_cases hv : v = w
    · simp only [hv, ne_eq, not_true_eq_false, false_and, if_true, Option.some.injEq, false_iff]
      rintro ⟨response, rfl⟩
      cases hnew
    · simp [hv]

/-- A worker that has no response before and after does not touch the line. -/
theorem of_set (h : pool.Lined) {old new : Phase} (hphase : pool.phases[w]? = some old)
    (hold : old.response? = none) (hnew : new.response? = none)
    (hphases : after.phases = pool.phases.set w new)
    (hline : after.results.line = pool.results.line) : after.Lined where
  nodup := by
    rw [hline]
    exact h.nodup
  mem_iff v := by
    rw [hline, hphases, getElem?_set_of_some hphase, h.mem_iff]
    by_cases hv : v = w
    · subst hv
      rw [hphase, if_pos rfl]
      constructor
      · rintro ⟨response, heq⟩
        cases heq
        cases hold
      · rintro ⟨response, heq⟩
        cases heq
        cases hnew
    · rw [if_neg hv]

/-- A move keeps the line in order. -/
theorem moved (h : pool.Lined) (hmoved : Moved pool w move after) : after.Lined := by
  cases hmoved with
  | listen hphase | retire hphase | heed hphase | take hphase | finish hphase | call hphase
  | panic hphase =>
    exact h.of_set hphase rfl rfl (phases_setPhase pool w _) rfl
  | @letGo _ share hphase =>
    cases share <;> exact h.of_set hphase rfl rfl (phases_setPhase pool w _) rfl
  | giveUp hphase | abandon hphase | answer _ hphase =>
    exact h.of_lineUp hphase rfl (phases_setPhase pool w _) rfl
  | send hphase => exact h.of_stepOut hphase rfl (phases_deliver pool w _ _) rfl
  | refuse hphase => exact h.of_stepOut hphase rfl (phases_discard pool w _ _) rfl

/-- The first of the line has a response to send. -/
theorem first_sending (h : pool.Lined) {first : Nat} {rest : List Nat}
    (hline : pool.results.line = first :: rest) :
    ∃ response, pool.phases[first]? = some (.sending response) :=
  (h.mem_iff first).mp (by simp [hline])

end Lined

end HeaderScan.Pool
