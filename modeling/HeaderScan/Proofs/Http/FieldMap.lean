import HeaderScan.Http.Field
import Mathlib.Data.String.Basic

/-!
# Field maps hold one value for each name

The names of a field map increase, so there is one entry for each name. A map keeps this
order whatever is put into it, and a value that is put in is the value of its name from then
on, while the other names keep theirs.
-/

namespace HeaderScan.Http

/-- A name is its text. -/
theorem FieldName.eq_of_text {first second : FieldName} (h : first.text = second.text) :
    first = second := by
  cases first
  cases second
  rw [FieldName.mk.injEq]
  exact h

namespace FieldMap

/-- The names of some entries increase. -/
def Increasing (entries : List (FieldName × FieldValue)) : Prop :=
  entries.Pairwise fun first second => first.1.text < second.1.text

variable {entries : List (FieldName × FieldValue)} {name : FieldName} {value : FieldValue}

/-- In entries whose names increase, no name is there twice. -/
theorem Increasing.nodup (h : Increasing entries) : (entries.map Prod.fst).Nodup := by
  rw [List.Nodup, List.pairwise_map]
  refine h.imp fun hlt heq => ?_
  rw [heq] at hlt
  exact lt_irrefl _ hlt

/-- What is put in comes instead of what its name had before. -/
theorem mem_insertEntry (h : Increasing entries) (entry : FieldName × FieldValue) :
    entry ∈ insertEntry name value entries ↔
      entry = (name, value) ∨ entry.1 ≠ name ∧ entry ∈ entries := by
  induction entries with
  | nil => simp [insertEntry]
  | cons first rest ih =>
    obtain ⟨other, previous⟩ := first
    have hlater : ∀ later ∈ rest, other.text < later.1.text := fun later =>
      List.rel_of_pairwise_cons h
    have hnone (hname : name.text ≤ other.text) (hmem : entry ∈ rest) : entry.1 ≠ name := by
      rintro rfl
      exact absurd (hlater entry hmem) (not_lt_of_ge hname)
    rw [insertEntry]
    split_ifs with heq hlt
    · subst heq
      rw [List.mem_cons, List.mem_cons]
      constructor
      · rintro (rfl | hmem)
        · exact .inl rfl
        · exact .inr ⟨hnone le_rfl hmem, .inr hmem⟩
      · rintro (rfl | ⟨hne, rfl | hmem⟩)
        · exact .inl rfl
        · exact absurd rfl hne
        · exact .inr hmem
    · rw [List.mem_cons, List.mem_cons]
      constructor
      · rintro (rfl | rfl | hmem)
        · exact .inl rfl
        · exact .inr ⟨Ne.symm heq, .inl rfl⟩
        · exact .inr ⟨hnone hlt.le hmem, .inr hmem⟩
      · rintro (rfl | ⟨-, hmem⟩)
        · exact .inl rfl
        · exact .inr hmem
    · rw [List.mem_cons, ih h.of_cons, List.mem_cons]
      constructor
      · rintro (rfl | rfl | ⟨hne, hmem⟩)
        · exact .inr ⟨Ne.symm heq, .inl rfl⟩
        · exact .inl rfl
        · exact .inr ⟨hne, .inr hmem⟩
      · rintro (rfl | ⟨hne, rfl | hmem⟩)
        · exact .inr (.inl rfl)
        · exact .inl rfl
        · exact .inr (.inr ⟨hne, hmem⟩)

/-- The names increase whatever is put in. -/
theorem Increasing.insertEntry (h : Increasing entries) :
    Increasing (insertEntry name value entries) := by
  induction entries with
  | nil => exact List.pairwise_singleton _ _
  | cons first rest ih =>
    obtain ⟨other, previous⟩ := first
    have hlater : ∀ later ∈ rest, other.text < later.1.text := fun later =>
      List.rel_of_pairwise_cons h
    rw [FieldMap.insertEntry]
    split_ifs with heq hlt
    · subst heq
      exact .cons hlater h.of_cons
    · refine .cons (fun later hmem => ?_) h
      rcases List.mem_cons.mp hmem with rfl | hmem
      · exact hlt
      · exact lt_trans hlt (hlater later hmem)
    · refine .cons (fun later hmem => ?_) (ih h.of_cons)
      rcases (mem_insertEntry h.of_cons later).mp hmem with rfl | ⟨-, hmem⟩
      · exact lt_of_le_of_ne (not_lt.mp hlt) fun htext =>
          heq (FieldName.eq_of_text htext.symm)
      · exact hlater later hmem

/-- The names of a map increase. -/
def Ordered (map : FieldMap) : Prop := Increasing map.entries

theorem ordered_empty : empty.Ordered := List.Pairwise.nil

variable {map : FieldMap}

/-- A map stays ordered. -/
theorem Ordered.insert (h : map.Ordered) : (map.insert name value).Ordered :=
  Increasing.insertEntry h

/-- A value that is put in is the only value of its name; nothing else changes. -/
theorem Ordered.mem_insert (h : map.Ordered) (entry : FieldName × FieldValue) :
    entry ∈ (map.insert name value).entries ↔
      entry = (name, value) ∨ entry.1 ≠ name ∧ entry ∈ map.entries :=
  mem_insertEntry h entry

/-- A map stays ordered when it is extended. -/
theorem Ordered.extend (h : map.Ordered) (other : FieldMap) : (map.extend other).Ordered := by
  obtain ⟨entries⟩ := other
  change (entries.foldl (fun map entry => map.insert entry.1 entry.2) map).Ordered
  induction entries generalizing map with
  | nil => exact h
  | cons first rest ih => exact ih h.insert

/-- What a map is extended with wins: it has all of that, and of its own fields those of other
names. -/
theorem Ordered.mem_extend (h : map.Ordered) {other : FieldMap}
    (hother : (other.entries.map Prod.fst).Nodup) (entry : FieldName × FieldValue) :
    entry ∈ (map.extend other).entries ↔
      entry ∈ other.entries ∨ entry ∈ map.entries ∧ entry.1 ∉ other.entries.map Prod.fst := by
  obtain ⟨entries⟩ := other
  change entry ∈ (entries.foldl (fun map entry => map.insert entry.1 entry.2) map).entries ↔
    entry ∈ entries ∨ entry ∈ map.entries ∧ entry.1 ∉ entries.map Prod.fst
  induction entries generalizing map with
  | nil => simp
  | cons first rest ih =>
    obtain ⟨hfirst, hrest⟩ := List.nodup_cons.mp hother
    have hkept : entry = first → entry.1 ∉ rest.map Prod.fst := by
      rintro rfl
      exact hfirst
    rw [List.foldl_cons, ih h.insert hrest, h.mem_insert, List.mem_cons, List.map_cons,
      List.mem_cons, not_or]
    tauto

end FieldMap

end HeaderScan.Http
