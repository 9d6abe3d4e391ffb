import Mathlib.Algebra.GroupWithZero.Nat

/-!
# Texts as lines

A text is divided into pieces at the ends of its lines. Lines that are written one after the
other are read again exactly when none of them has an end of a line in it; otherwise there
are more of them.
-/

namespace HeaderScan.Text

variable {line : String} {lines : List String}

/-- No line has an end of a line in it. -/
theorem not_mem_of_mem_splitOn {chars line : List Char} (h : line ∈ chars.splitOn '\n') :
    '\n' ∉ line := by
  induction chars generalizing line with
  | nil =>
    rw [List.splitOn_nil, List.mem_singleton] at h
    rw [h]
    exact List.not_mem_nil
  | cons c rest ih =>
    rw [List.splitOn_cons_eq_if_modifyHead] at h
    by_cases hc : (c == '\n') = true
    · rw [if_pos hc, List.mem_cons] at h
      rcases h with rfl | h
      · exact List.not_mem_nil
      · exact ih h
    · rw [if_neg hc] at h
      obtain ⟨first, later, hlines⟩ := List.exists_cons_of_ne_nil (List.splitOn_ne_nil '\n' rest)
      rw [hlines] at h ih
      rw [List.modifyHead_cons, List.mem_cons] at h
      rcases h with rfl | h
      · rw [List.mem_cons, not_or]
        exact ⟨fun heq => hc (by rw [← heq]; rfl), ih List.mem_cons_self⟩
      · exact ih (List.mem_cons_of_mem _ h)

/-- What follows the first end of a line is divided as before. -/
theorem splitOn_line (hline : '\n' ∉ line.toList) (later : String) :
    (line ++ "\n" ++ later).toList.splitOn '\n' =
      line.toList :: later.toList.splitOn '\n' := by
  rw [String.toList_append, String.toList_append, List.append_assoc]
  exact List.splitOn_append_cons_self_of_not_mem hline _

/-- A text has as many pieces as ends of lines, and one more. -/
theorem length_splitOn (chars : List Char) :
    (chars.splitOn '\n').length = chars.count '\n' + 1 := by
  induction chars with
  | nil => rfl
  | cons c rest ih =>
    rw [List.splitOn_cons_eq_if_modifyHead, List.count_cons]
    by_cases hc : (c == '\n') = true
    · rw [if_pos hc, if_pos hc, List.length_cons, ih]
    · rw [if_neg hc, if_neg hc, List.length_modifyHead, ih, Nat.add_zero]

/-- The lines of a text, each with an end; what follows the last end is left out. -/
def linesOf (text : String) : List String :=
  (text.toList.splitOn '\n').dropLast.map String.ofList

/-- A text has as many lines as ends of lines. -/
theorem length_linesOf (text : String) : (linesOf text).length = text.toList.count '\n' := by
  rw [linesOf, List.length_map, List.length_dropLast, length_splitOn, Nat.add_sub_cancel]

/-- The first line ends at the first end of a line. -/
theorem linesOf_append (hline : '\n' ∉ line.toList) (later : String) :
    linesOf (line ++ "\n" ++ later) = line :: linesOf later := by
  rw [linesOf, splitOn_line hline, List.dropLast_cons_of_ne_nil (List.splitOn_ne_nil _ _),
    List.map_cons, String.ofList_toList]
  rfl

/-- Lines that are written one after the other. -/
def unlines (lines : List String) : String := String.join (lines.map (· ++ "\n"))

/-- Without lines nothing is written. -/
@[simp] theorem unlines_nil : unlines [] = "" := String.join_nil

/-- The first line is written first. -/
theorem unlines_cons (line : String) (later : List String) :
    unlines (line :: later) = line ++ "\n" ++ unlines later := String.join_cons

/-- What is written has an end for each line, and those that are in the lines. -/
theorem length_linesOf_unlines (lines : List String) : (linesOf (unlines lines)).length =
    lines.length + (lines.map fun line => line.toList.count '\n').sum := by
  induction lines with
  | nil => decide +kernel
  | cons line later ih =>
    rw [length_linesOf] at ih ⊢
    have hnewline : "\n".toList.count '\n' = 1 := by decide
    rw [unlines_cons, String.toList_append, String.toList_append, List.count_append,
      List.count_append, hnewline, ih, List.length_cons, List.map_cons, List.sum_cons]
    omega

/-- Lines that are written one after the other are the first lines of what is written. -/
theorem linesOf_unlines_append (h : ∀ line ∈ lines, '\n' ∉ line.toList) (later : String) :
    linesOf (unlines lines ++ later) = lines ++ linesOf later := by
  induction lines with
  | nil => rw [unlines_nil, String.empty_append, List.nil_append]
  | cons line rest ih =>
    obtain ⟨hline, hrest⟩ := List.forall_mem_cons.mp h
    rw [unlines_cons, String.append_assoc, linesOf_append hline, ih hrest, List.cons_append]

/-- Lines are read as they were written exactly when none has an end in it. -/
theorem linesOf_unlines_iff :
    linesOf (unlines lines) = lines ↔ ∀ line ∈ lines, '\n' ∉ line.toList := by
  constructor
  · intro heq line hline
    have hlength := length_linesOf_unlines lines
    rw [heq] at hlength
    have hsum : (lines.map fun line => line.toList.count '\n').sum = 0 := by omega
    have hcount := List.sum_eq_zero_iff_forall_eq_nat.mp hsum _ (List.mem_map_of_mem hline)
    exact List.count_eq_zero.mp hcount
  · intro h
    have hread := linesOf_unlines_append h ""
    have hempty : linesOf "" = [] := by decide +kernel
    rwa [String.append_empty, hempty, List.append_nil] at hread

end HeaderScan.Text
