import HeaderScan.Pool.Basic
import Mathlib.Data.List.Perm.Subperm
import Mathlib.Data.List.Nodup
import Mathlib.Logic.Function.Basic

/-!
# Logs by worker

A log is a list of entries, each with the number of a worker. What one worker has in it
is a list in its own right, and two logs in which every worker has the same entries are
rearrangements of each other. The entries of a worker keep the order of their positions.
-/

namespace HeaderScan

/-- The entries of a worker in a log, in order. -/
def entriesOf {α : Type} (w : Nat) (log : List (Nat × α)) : List α :=
  log.filterMap fun entry => if entry.1 = w then some entry.2 else none

section Log

variable {α : Type} {v w : Nat} {item : α}

@[simp] theorem entriesOf_nil : entriesOf w ([] : List (Nat × α)) = [] := rfl

@[simp] theorem entriesOf_append (log later : List (Nat × α)) :
    entriesOf w (log ++ later) = entriesOf w log ++ entriesOf w later :=
  List.filterMap_append

@[simp] theorem entriesOf_cons_self (log : List (Nat × α)) :
    entriesOf w ((w, item) :: log) = item :: entriesOf w log := by
  simp [entriesOf]

@[simp] theorem entriesOf_cons_ne (h : v ≠ w) (log : List (Nat × α)) :
    entriesOf w ((v, item) :: log) = entriesOf w log := by
  simp [entriesOf, h]

@[simp] theorem entriesOf_map_self (items : List α) : entriesOf w (items.map (w, ·)) = items := by
  simp [entriesOf, List.filterMap_map]

@[simp] theorem entriesOf_map_ne (h : v ≠ w) (items : List α) :
    entriesOf w (items.map (v, ·)) = [] := by
  simp [entriesOf, h]

/-- The entries of a worker in a log whose items were changed are its entries, changed. -/
theorem entriesOf_map {β : Type} (change : α → β) (log : List (Nat × α)) :
    entriesOf w (log.map fun entry => (entry.1, change entry.2)) =
      (entriesOf w log).map change := by
  induction log with
  | nil => rfl
  | cons entry log ih =>
    obtain ⟨v, item⟩ := entry
    by_cases hv : v = w
    · subst hv
      simp [ih]
    · simp [hv, ih]

/-- A worker has an entry exactly when the log has it under the number of the worker. -/
theorem mem_entriesOf {log : List (Nat × α)} : item ∈ entriesOf w log ↔ (w, item) ∈ log := by
  simp only [entriesOf, List.mem_filterMap, Option.ite_none_right_eq_some, Option.some.injEq]
  constructor
  · rintro ⟨⟨v, item⟩, hmem, rfl, rfl⟩
    exact hmem
  · intro hmem
    exact ⟨(w, item), hmem, rfl, rfl⟩

/-- A log is empty when no worker has an entry in it. -/
theorem eq_nil_of_entriesOf {log : List (Nat × α)} (h : ∀ w, entriesOf w log = []) :
    log = [] := by
  apply List.eq_nil_iff_forall_not_mem.mpr
  rintro ⟨w, item⟩ hmem
  have hentry := mem_entriesOf.mpr hmem
  rw [h w] at hentry
  cases hentry

/-- Entries are counted among those of their worker. -/
theorem count_entriesOf [DecidableEq α] (log : List (Nat × α)) :
    (entriesOf w log).count item = log.count (w, item) := by
  induction log with
  | nil => rfl
  | cons entry log ih =>
    obtain ⟨v, other⟩ := entry
    by_cases hv : v = w
    · subst hv
      simp [List.count_cons, ih]
    · simp [hv, ih]

/-- Two logs in which every worker has the same entries hold the same entries. -/
theorem perm_of_entriesOf [DecidableEq α] {log other : List (Nat × α)}
    (h : ∀ w, entriesOf w log = entriesOf w other) : log.Perm other := by
  apply List.perm_iff_count.mpr
  rintro ⟨w, item⟩
  rw [← count_entriesOf, ← count_entriesOf, h]

/-- The entries of a worker are counted by the number of the worker. -/
theorem count_map_fst (log : List (Nat × α)) :
    (log.map Prod.fst).count w = (entriesOf w log).length := by
  induction log with
  | nil => rfl
  | cons entry log ih =>
    obtain ⟨v, item⟩ := entry
    by_cases hv : v = w
    · subst hv
      simp [ih]
    · simp [hv, ih]

/-- The workers with an entry are all different when none has two. -/
theorem nodup_map_fst {log : List (Nat × α)} (hone : ∀ w, (entriesOf w log).length ≤ 1) :
    (log.map Prod.fst).Nodup := by
  apply List.nodup_iff_count_le_one.mpr
  intro w
  rw [count_map_fst]
  exact hone w

/-- A log of a few workers with at most one entry for each is no longer than they are many. -/
theorem length_le_of_entriesOf {log : List (Nat × α)} {workers : Nat}
    (hone : ∀ w, (entriesOf w log).length ≤ 1)
    (hworkers : ∀ w, workers ≤ w → entriesOf w log = []) : log.length ≤ workers := by
  have hsubset : log.map Prod.fst ⊆ List.range workers := by
    intro w hw
    obtain ⟨⟨v, item⟩, hmem, rfl⟩ := List.mem_map.mp hw
    have hentry := mem_entriesOf.mpr hmem
    rw [List.mem_range]
    by_contra hlt
    rw [hworkers v (by omega)] at hentry
    cases hentry
  have hlength := (List.subperm_of_subset (nodup_map_fst hone) hsubset).length_le
  simpa using hlength

/-- What is kept of a log by its items is kept of the entries of each worker. -/
theorem entriesOf_filter (kept : α → Bool) (log : List (Nat × α)) :
    entriesOf w (log.filter fun entry => kept entry.2) = (entriesOf w log).filter kept := by
  induction log with
  | nil => rfl
  | cons entry log ih =>
    obtain ⟨v, item⟩ := entry
    by_cases hv : v = w
    · subst hv
      cases hkept : kept item <;> simp [hkept, ih]
    · cases hkept : kept item <;> simp [hkept, hv, ih]

/-- When no worker has two entries of a kind, a log of a few workers has no more entries
of that kind than they are many. -/
theorem countP_le_of_entriesOf (counted : α → Bool) {log : List (Nat × α)} {workers : Nat}
    (hone : ∀ w, (entriesOf w log).countP counted ≤ 1)
    (hworkers : ∀ w, workers ≤ w → entriesOf w log = []) :
    (log.countP fun entry => counted entry.2) ≤ workers := by
  rw [List.countP_eq_length_filter]
  apply length_le_of_entriesOf
  · intro w
    rw [entriesOf_filter, ← List.countP_eq_length_filter]
    exact hone w
  · intro w hw
    rw [entriesOf_filter, hworkers w hw, List.filter_nil]

/-- When the items of every worker stand for its entries in a log, they can be put in
the order of the log. -/
theorem exists_woven {β : Type} (stand : β → α) (log : List (Nat × α)) (items : Nat → List β)
    (h : ∀ w, (items w).map stand = entriesOf w log) :
    ∃ woven : List (Nat × β), woven.map (fun entry => (entry.1, stand entry.2)) = log ∧
      ∀ w, entriesOf w woven = items w := by
  induction log generalizing items with
  | nil => exact ⟨[], rfl, fun w => (List.map_eq_nil_iff.mp (h w)).symm⟩
  | cons entry log ih =>
    obtain ⟨v, first⟩ := entry
    -- The first entry is that of the next item of its worker.
    obtain ⟨item, later, hitems, hitem, hlater⟩ :=
      List.map_eq_cons_iff.mp ((h v).trans (entriesOf_cons_self log))
    obtain ⟨woven, hwoven, hentries⟩ := ih (Function.update items v later) fun w => by
      by_cases hw : w = v
      · subst hw
        simpa using hlater
      · simpa [hw, Ne.symm hw] using h w
    refine ⟨(v, item) :: woven, by simp [hitem, hwoven], fun w => ?_⟩
    by_cases hw : v = w
    · subst hw
      simp [hentries, hitems]
    · simp [hw, Ne.symm hw, hentries]

/-- What is so in the entries of every worker is so between the entries of one worker. -/
theorem pairwise_of_entriesOf {R : α → α → Prop} {log : List (Nat × α)}
    (h : ∀ w, (entriesOf w log).Pairwise R) :
    log.Pairwise fun a b => a.1 = b.1 → R a.2 b.2 := by
  induction log with
  | nil => exact .nil
  | cons entry log ih =>
    obtain ⟨v, item⟩ := entry
    refine .cons ?_ (ih fun w => ?_)
    · rintro ⟨u, other⟩ hmem rfl
      have hfirst := h v
      rw [entriesOf_cons_self] at hfirst
      exact List.rel_of_pairwise_cons hfirst (mem_entriesOf.mpr hmem)
    · have hall := h w
      by_cases hv : v = w
      · subst hv
        rw [entriesOf_cons_self] at hall
        exact hall.of_cons
      · rwa [entriesOf_cons_ne hv] at hall

/-- A log in which only one worker has entries is the log of these entries. -/
theorem eq_map_of_entriesOf {v : Nat} {log : List (Nat × α)}
    (h : ∀ w, w ≠ v → entriesOf w log = []) : log = (entriesOf v log).map (v, ·) := by
  induction log with
  | nil => rfl
  | cons entry log ih =>
    obtain ⟨u, item⟩ := entry
    have hu : u = v := by
      by_contra hne
      have hnone := h u hne
      rw [entriesOf_cons_self] at hnone
      cases hnone
    subst hu
    rw [entriesOf_cons_self, List.map_cons, ← ih]
    intro w hw
    rw [← h w hw, entriesOf_cons_ne (Ne.symm hw)]

/-- The entries of a log, each with its position. -/
def numbered (log : List (Nat × α)) : List (Nat × α × Nat) :=
  log.zipIdx.map fun entry => (entry.1.1, entry.1.2, entry.2)

/-- A position has the entry that stands there. -/
theorem mem_numbered {log : List (Nat × α)} {item : α} {position : Nat} :
    (w, item, position) ∈ numbered log ↔ log[position]? = some (w, item) := by
  rw [← List.mk_mem_zipIdx_iff_getElem?, numbered, List.mem_map]
  constructor
  · rintro ⟨⟨⟨v, other⟩, i⟩, hmem, heq⟩
    cases heq
    exact hmem
  · intro hmem
    exact ⟨((w, item), position), hmem, rfl⟩

/-- Without the positions the entries of a worker are the same. -/
theorem map_fst_entriesOf_numbered (log : List (Nat × α)) :
    (entriesOf w (numbered log)).map Prod.fst = entriesOf w log := by
  have hlog : (numbered log).map (fun entry => (entry.1, entry.2.1)) = log := by
    rw [numbered, List.map_map]
    exact List.zipIdx_map_fst 0 log
  rw [← entriesOf_map, hlog]

/-- The positions of the entries of a worker are increasing. -/
theorem pairwise_entriesOf_numbered (log : List (Nat × α)) :
    (entriesOf w (numbered log)).Pairwise fun a b => a.2 < b.2 := by
  have hpositions : (numbered log).map (fun entry => entry.2.2) = List.range' 0 log.length := by
    rw [numbered, List.map_map]
    exact List.zipIdx_map_snd 0 log
  have hall : (numbered log).Pairwise fun a b => a.2.2 < b.2.2 := by
    rw [← List.pairwise_map, hpositions]
    exact List.pairwise_lt_range'
  refine List.Pairwise.filterMap _ ?_ hall
  rintro ⟨u, a⟩ ⟨v, b⟩ hlt a' ha b' hb
  simp only [Option.ite_none_right_eq_some, Option.some.injEq] at ha hb
  rw [← ha.2, ← hb.2]
  exact hlt

end Log

namespace Delivery

/-- A delivery as an entry of a log of responses. -/
def entry (delivery : Delivery) : Nat × Response := (delivery.worker, delivery.response)

/-- A delivery as an entry of a log of hosts. -/
def place (delivery : Delivery) : Nat × Host := (delivery.worker, delivery.response.host)

@[simp] theorem entry_mk (w : Nat) (response : Response) :
    (Delivery.mk w response).entry = (w, response) := rfl

@[simp] theorem place_mk (w : Nat) (response : Response) :
    (Delivery.mk w response).place = (w, response.host) := rfl

/-- Deliveries with the same entry are the same. -/
theorem entry_injective : Function.Injective Delivery.entry := by
  rintro ⟨v, first⟩ ⟨w, second⟩ h
  cases h
  rfl

/-- Deliveries are the same as the entries of a log of responses. -/
theorem perm_of_entries {log other : List Delivery}
    (h : (log.map entry).Perm (other.map entry)) : log.Perm other := by
  have hinverse (log : List Delivery) :
      (log.map entry).map (fun entry => Delivery.mk entry.1 entry.2) = log := by
    simp [entry, Function.comp_def]
  have hperm := h.map fun entry => Delivery.mk entry.1 entry.2
  rwa [hinverse, hinverse] at hperm

/-- The hosts of the responses of a worker are its entries in the log of hosts. -/
theorem entriesOf_place (w : Nat) (log : List Delivery) :
    entriesOf w (log.map place) = (entriesOf w (log.map entry)).map (·.host) := by
  have hlog : log.map place = (log.map entry).map fun entry => (entry.1, entry.2.host) := by
    rw [List.map_map]
    rfl
  rw [hlog, entriesOf_map]

end Delivery

end HeaderScan
