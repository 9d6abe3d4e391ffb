import HeaderScan.Pool.Basic
import Mathlib.Algebra.GroupWithZero.Nat

/-!
# The phases of a pool

What a pool can do next depends on its workers only through their phases. The list
of phases is the view through which the operations on a pool are described here, and
counts over it say how many shares of the queue, the channel and the barrier are held.
-/

namespace HeaderScan

namespace Phase

/-- How the work of the worker ended, once it has. -/
def exit? : Phase → Option Exit
  | leaving exit _ | gone exit => some exit
  | _ => none

/-- The response that the worker has made and not sent. -/
def response? : Phase → Option Response
  | sending response => some response
  | _ => none

/-- The host that the worker has taken and not begun to probe. -/
def held? : Phase → Option Host
  | holding host => some host
  | _ => none

@[simp] theorem response?_leaving (exit : Exit) (share : Share) :
    (leaving exit share).response? = none := rfl

@[simp] theorem held?_leaving (exit : Exit) (share : Share) :
    (leaving exit share).held? = none := rfl

variable {phase : Phase} {exit : Exit}

/-- A worker whose work has ended has no host in its hands. -/
theorem host?_of_exit? (h : phase.exit? = some exit) : phase.host? = none := by
  cases phase <;> first | rfl | cases h

/-- A worker whose work has ended has no response to send. -/
theorem response?_of_exit? (h : phase.exit? = some exit) : phase.response? = none := by
  cases phase <;> first | rfl | cases h

/-- A worker whose work has ended has no host left to probe. -/
theorem held?_of_exit? (h : phase.exit? = some exit) : phase.held? = none := by
  cases phase <;> first | rfl | cases h

/-- A worker that has no host has no response either. -/
theorem response?_of_host? (h : phase.host? = none) : phase.response? = none := by
  cases phase <;> first | rfl | cases h

/-- A worker that has no host has none left to probe. -/
theorem held?_of_host? (h : phase.host? = none) : phase.held? = none := by
  cases phase <;> first | rfl | cases h

/-- The work of a worker that still works has not ended. -/
theorem exit?_of_isWorking (h : phase.isWorking = true) : phase.exit? = none := by
  cases phase <;> first | rfl | cases h

/-- A worker without a share of the queue has ended its work. -/
theorem exists_exit?_of_hasConsumer (h : phase.hasConsumer = false) :
    ∃ exit, phase.exit? = some exit := by
  cases phase <;> first | exact ⟨_, rfl⟩ | cases h

/-- A worker without a guard has let go of everything. -/
theorem exists_gone_of_hasGuard (h : phase.hasGuard = false) : ∃ exit, phase = gone exit := by
  cases phase <;> first | exact ⟨_, rfl⟩ | cases h

end Phase

namespace Pool

variable {pool : Pool} {w : Nat}

/-- The phases of the workers, in the order of their numbers. -/
def phases (pool : Pool) : List Phase := pool.workers.map (·.phase)

@[simp] theorem phases_setPhase (pool : Pool) (w : Nat) (phase : Phase) :
    (pool.setPhase w phase).phases = pool.phases.set w phase := by
  apply List.ext_getElem?
  intro v
  by_cases hv : w = v
  · subst hv
    by_cases hw : w < pool.workers.length <;>
      simp [phases, setPhase, hw]
  · simp [phases, setPhase, hv]

@[simp] theorem phases_countHandled (pool : Pool) (w : Nat) :
    (pool.countHandled w).phases = pool.phases := by
  apply List.ext_getElem?
  intro v
  by_cases hv : w = v
  · subst hv
    simp [phases, countHandled, Function.comp_def]
  · simp [phases, countHandled, hv]

/-- A phase belongs to a worker, whatever that worker has handled. -/
theorem getElem?_phases (pool : Pool) (w : Nat) :
    pool.phases[w]? = pool.workers[w]?.map (·.phase) := by
  simp [phases]

/-- How the work of a worker of the pool ended, once it has. -/
def exit? (pool : Pool) (w : Nat) : Option Exit := pool.phases[w]?.bind Phase.exit?

/-- The end of a worker is that of its phase. -/
theorem exit?_of_phase {phase : Phase} (hphase : pool.phases[w]? = some phase) :
    pool.exit? w = phase.exit? := by
  simp [exit?, hphase]

/-- A worker with a phase is a worker of the pool. -/
theorem exists_worker {phase : Phase} (hphase : pool.phases[w]? = some phase) :
    ∃ handled, pool.workers[w]? = some ⟨phase, handled⟩ := by
  rw [getElem?_phases] at hphase
  obtain ⟨worker, hworker, rfl⟩ := Option.map_eq_some_iff.mp hphase
  exact ⟨worker.handled, hworker⟩

/-- The view does not depend on how a pool is written down. -/
@[simp] theorem phases_mk (queue : WorkQueue Host) (results : Channel Delivery)
    (workers : List Worker) (barrier : Barrier) (isCancelled : Bool) (ledger : Ledger) :
    (Pool.mk queue results workers barrier isCancelled ledger).phases =
      workers.map (·.phase) := rfl

@[simp] theorem map_phase_workers (pool : Pool) : pool.workers.map (·.phase) = pool.phases := rfl

@[simp] theorem phases_spawn (pool : Pool) : pool.spawn.phases = pool.phases ++ [.idle] := by
  simp [spawn, Worker.new]

@[simp] theorem phases_deliver (pool : Pool) (w : Nat) (response : Response)
    (results : Channel Delivery) :
    (pool.deliver w response results).phases = pool.phases.set w .idle := by
  simp [deliver]

@[simp] theorem phases_discard (pool : Pool) (w : Nat) (response : Response)
    (results : Channel Delivery) :
    (pool.discard w response results).phases =
      pool.phases.set w (.leaving .returned .consumer) := by
  simp [discard, lose, leave]

@[simp] theorem setPhase_results (phase : Phase) :
    (pool.setPhase w phase).results = pool.results := rfl

@[simp] theorem setPhase_ledger (phase : Phase) :
    (pool.setPhase w phase).ledger = pool.ledger := rfl

@[simp] theorem countHandled_ledger : (pool.countHandled w).ledger = pool.ledger := rfl

end Pool

/-- The entries of a list in which one entry was replaced. -/
theorem getElem?_set_of_some {α : Type} {items : List α} {i : Nat} {old : α}
    (hold : items[i]? = some old) (new : α) (j : Nat) :
    (items.set i new)[j]? = if j = i then some new else items[j]? := by
  have hi : i < items.length := (List.getElem?_eq_some_iff.mp hold).1
  rw [List.getElem?_set]
  by_cases hj : j = i
  · simp [hj, hi]
  · simp [hj, Ne.symm hj]

/-- When one entry of a list is replaced, a sum over the list changes by the weights
of the two entries. -/
theorem sum_map_set {α : Type} {items : List α} {i : Nat} {old : α} (weight : α → Nat)
    (hold : items[i]? = some old) (new : α) :
    ((items.set i new).map weight).sum + weight old = (items.map weight).sum + weight new := by
  induction items generalizing i with
  | nil => simp at hold
  | cons first rest ih =>
    cases i with
    | zero =>
      simp only [List.getElem?_cons_zero, Option.some.injEq] at hold
      simp only [List.set_cons_zero, List.map_cons, List.sum_cons, hold]
      omega
    | succ i =>
      have hrest := ih (i := i) (by simpa using hold)
      simp only [List.set_cons_succ, List.map_cons, List.sum_cons]
      omega

/-- When one entry of a list is replaced, a count over the list changes by what is
counted of the two entries. -/
theorem countP_set_add {α : Type} {items : List α} {i : Nat} {old : α} (counted : α → Bool)
    (hold : items[i]? = some old) (new : α) :
    (items.set i new).countP counted + (counted old).toNat =
      items.countP counted + (counted new).toNat := by
  induction items generalizing i with
  | nil => simp at hold
  | cons first rest ih =>
    cases i with
    | zero =>
      simp only [List.getElem?_cons_zero, Option.some.injEq] at hold
      subst hold
      cases hf : counted first <;> cases hn : counted new <;> simp [hf, hn]
    | succ i =>
      have hrest := ih (i := i) (by simpa using hold)
      simp only [List.set_cons_succ, List.countP_cons]
      omega

end HeaderScan
