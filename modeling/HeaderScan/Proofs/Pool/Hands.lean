import HeaderScan.Proofs.Pool.Custody

/-!
# What the workers hold

A view of phases, such as the host in hand, gives a log of the workers that have
something in it. Each worker has at most one entry there, so such a log is as long as
there are workers with an entry.
-/

namespace HeaderScan

namespace Pool

variable {α : Type} {pool : Pool} {w : Nat}

/-- What the phases show in a view, each with its number, when the first has this number. -/
def shownFrom (view : Phase → Option α) (first : Nat) : List Phase → List (Nat × α)
  | [] => []
  | phase :: later => (view phase).toList.map (first, ·) ++ shownFrom view (first + 1) later

/-- What the workers of the pool show in a view. -/
def shown (pool : Pool) (view : Phase → Option α) : List (Nat × α) := shownFrom view 0 pool.phases

/-- The hosts in the hands of the workers: about to be probed, being probed, or with a
response that waits to be sent. -/
def hands (pool : Pool) : List (Nat × Host) := pool.shown Phase.host?

/-- The hosts whose probes are in flight. -/
def inFlight (pool : Pool) : List (Nat × Host) := pool.shown Phase.inFlight?

/-- What is shown has the number of a phase from the first on. -/
theorem entriesOf_shownFrom_of_lt (view : Phase → Option α) {first : Nat} (phases : List Phase)
    (hw : w < first) : entriesOf w (shownFrom view first phases) = [] := by
  induction phases generalizing first with
  | nil => rfl
  | cons phase later ih =>
    have hne : first ≠ w := by omega
    simp [shownFrom, ih (Nat.lt_succ_of_lt hw), hne]

/-- What a worker shows is found under its number. -/
theorem entriesOf_shownFrom (view : Phase → Option α) (first : Nat) (phases : List Phase)
    (w : Nat) : entriesOf (first + w) (shownFrom view first phases) =
      (phases[w]?.bind view).toList := by
  induction phases generalizing first w with
  | nil => rfl
  | cons phase later ih =>
    cases w with
    | zero => simp [shownFrom, entriesOf_shownFrom_of_lt]
    | succ w =>
      have hlater := ih (first + 1) w
      rw [show first + 1 + w = first + (w + 1) by omega] at hlater
      simp [shownFrom, hlater]

/-- A worker shows what is in its phase. -/
@[simp] theorem entriesOf_shown (pool : Pool) (view : Phase → Option α) (w : Nat) :
    entriesOf w (pool.shown view) = (pool.phases[w]?.bind view).toList := by
  have hentries := entriesOf_shownFrom view 0 pool.phases w
  rwa [Nat.zero_add] at hentries

/-- No worker shows two things. -/
theorem length_entriesOf_shown_le (pool : Pool) (view : Phase → Option α) (w : Nat) :
    (entriesOf w (pool.shown view)).length ≤ 1 := by
  rw [entriesOf_shown]
  cases pool.phases[w]?.bind view <;> simp

/-- Every phase that shows something gives one entry. -/
theorem length_shownFrom (view : Phase → Option α) (first : Nat) (phases : List Phase) :
    (shownFrom view first phases).length = phases.countP fun phase => (view phase).isSome := by
  induction phases generalizing first with
  | nil => rfl
  | cons phase later ih =>
    cases hview : view phase <;> simp [shownFrom, ih, hview, Nat.add_comm]

/-- As much is shown as there are workers that show something. -/
theorem length_shown (pool : Pool) (view : Phase → Option α) :
    (pool.shown view).length = pool.phases.countP fun phase => (view phase).isSome :=
  length_shownFrom view 0 pool.phases

end Pool

end HeaderScan
