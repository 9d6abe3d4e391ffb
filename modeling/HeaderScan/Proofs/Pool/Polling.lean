import HeaderScan.Pool.Polling
import HeaderScan.Proofs.Pool.Moves

/-!
# How far a worker can run

A worker that is polled makes its moves one by one. It is left where it can move only by
the end of its probe, and it gets there, since every move is one of those that are left.
-/

namespace HeaderScan.Pool

variable {pool after : Pool} {w : Nat} {move : Move} {result? : Option ProbeResult}

/-! ## The moves that are left -/

/-- The bound on the moves that are left, read from the phases. -/
theorem movesLeft_eq (pool : Pool) : pool.movesLeft =
    (pool.phases.map Phase.movesLeft).sum + 6 * pool.queue.items.length +
      pool.results.items.length := by
  simp only [movesLeft, phases, List.map_map]
  congr 2
  induction pool.workers with
  | nil => rfl
  | cons worker workers ih => simp [ih]

/-- The bound falls when one worker changes its phase and, with the queue and the channel,
what the phases weigh gets less. -/
theorem movesLeft_lt_of_set {old new : Phase} (hphase : pool.phases[w]? = some old)
    (hphases : after.phases = pool.phases.set w new)
    (hless : new.movesLeft + 6 * after.queue.items.length + after.results.items.length <
      old.movesLeft + 6 * pool.queue.items.length + pool.results.items.length) :
    after.movesLeft < pool.movesLeft := by
  have hsum := sum_map_set Phase.movesLeft hphase new
  rw [movesLeft_eq, movesLeft_eq, hphases]
  omega

/-- The bound falls when one worker comes nearer to its end and nothing else changes. -/
theorem movesLeft_lt_of_phase {old new : Phase} (hphase : pool.phases[w]? = some old)
    (hphases : after.phases = pool.phases.set w new)
    (hitems : after.queue.items = pool.queue.items)
    (hresults : after.results.items = pool.results.items)
    (hless : new.movesLeft < old.movesLeft) : after.movesLeft < pool.movesLeft := by
  apply movesLeft_lt_of_set hphase hphases
  rw [hitems, hresults]
  omega

/-- Every move of a worker is one of those that are left. -/
theorem Moved.movesLeft_lt (h : Moved pool w move after) : after.movesLeft < pool.movesLeft := by
  cases h with
  | listen hphase | retire hphase | heed hphase | finish hphase | call hphase | panic hphase
  | giveUp hphase | abandon hphase | answer _ hphase =>
    exact movesLeft_lt_of_phase hphase (phases_setPhase pool w _) rfl rfl
      (by simp [Phase.movesLeft])
  | refuse hphase =>
    exact movesLeft_lt_of_phase hphase (phases_discard pool w _ _) rfl rfl
      (by simp [Phase.movesLeft])
  | @letGo _ share hphase =>
    cases share <;>
      exact movesLeft_lt_of_phase hphase (phases_setPhase pool w _) rfl rfl
      (by simp [Phase.movesLeft])
  | @take host rest hphase hitems =>
    -- The host in the queue pays for the moves of the worker that has it now.
    refine movesLeft_lt_of_set hphase (phases_setPhase pool w _) ?_
    rw [hitems]
    change 9 + 6 * rest.length + pool.results.items.length <
      4 + 6 * (host :: rest).length + pool.results.items.length
    rw [List.length_cons]
    omega
  | @send response hphase =>
    -- The response is still to be received.
    refine movesLeft_lt_of_set hphase (phases_deliver pool w _ _) ?_
    change 5 + 6 * pool.queue.items.length +
        (pool.results.items ++ [Delivery.mk w response]).length <
      7 + 6 * pool.queue.items.length + pool.results.items.length
    rw [List.length_append, List.length_singleton]
    omega

/-! ## The next move -/

/-- A worker that advances makes a move. -/
theorem exists_moved_of_advance? (h : pool.advance? result? w = some after) :
    ∃ move, Moved pool w move after := by
  obtain ⟨worker, -, h⟩ := Option.bind_eq_some_iff.mp h
  obtain ⟨move, -, hmove⟩ := Option.bind_eq_some_iff.mp h
  exact ⟨move, moved_of_move? hmove⟩

/-- The next move of a worker is the one that it advances by. -/
theorem advance?_eq {phase : Phase} (hphase : pool.phases[w]? = some phase)
    (hnext : pool.nextMove? result? phase = some move) :
    pool.advance? result? w = pool.move? w move := by
  obtain ⟨handled, hworker⟩ := exists_worker hphase
  simp [advance?, hworker, hnext]

/-- A worker whose next move is possible can advance. -/
theorem Moved.advance?_ne_none (h : Moved pool w move after) {phase : Phase}
    (hphase : pool.phases[w]? = some phase)
    (hnext : pool.nextMove? result? phase = some move) : pool.advance? result? w ≠ none := by
  rw [advance?_eq hphase hnext, h.move?]
  exact Option.some_ne_none _

/-- A worker whose probe has something to say can advance. -/
theorem advance?_ne_none_of_result {host : Host} (result : ProbeResult)
    (hphase : pool.phases[w]? = some (.probing host)) :
    pool.advance? (some result) w ≠ none := by
  cases result with
  | answer status => exact (Moved.answer status hphase).advance?_ne_none hphase rfl
  | panic => exact (Moved.panic hphase).advance?_ne_none hphase rfl

/-- A worker that can move without the end of its probe can advance. -/
theorem Moved.advance?_ne_none_of_ne (h : Moved pool w move after)
    (hanswer : ∀ status, move ≠ .answer status) (hpanic : move ≠ .panic) :
    pool.advance? result? w ≠ none := by
  have hmoved := h
  cases h with
  | listen hphase | retire hphase | call hphase | giveUp hphase | send hphase | refuse hphase
  | letGo hphase =>
    exact hmoved.advance?_ne_none hphase rfl
  | heed hphase htoken => exact hmoved.advance?_ne_none hphase (by simp [nextMove?, htoken])
  | take hphase | finish hphase =>
    -- Once the token is cancelled, a worker that could take a host ends all the same.
    cases htoken : pool.isCancelled with
    | true => exact (Moved.heed hphase htoken).advance?_ne_none hphase (by simp [nextMove?, htoken])
    | false => exact hmoved.advance?_ne_none hphase (by simp [nextMove?, htoken])
  | abandon hphase htoken =>
    cases result? with
    | some result => exact advance?_ne_none_of_result result hphase
    | none => exact hmoved.advance?_ne_none hphase (by simp [nextMove?, htoken])
  | answer => exact absurd rfl (hanswer _)
  | panic => exact absurd rfl hpanic

end HeaderScan.Pool
