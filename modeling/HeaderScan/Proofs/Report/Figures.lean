import HeaderScan.Proofs.Report.ResponseLines
import HeaderScan.Proofs.Text.Lines
import HeaderScan.Report.Statistics
import Mathlib.Data.List.DropRight
import Mathlib.Data.List.Forall2

/-!
# The figures of a report can be read again

Below its own title a report has a line for each figure: a title, dots and all digits of the
figure. No title has a digit in it, so a figure is told by the digits that its line ends with,
and what follows the figures does not touch their lines.
-/

namespace HeaderScan

namespace Text

/-- A character, so many times. -/
theorem toList_pushn (c : Char) (n : Nat) : ("".pushn c n).toList = List.replicate n c := by
  rw [String.pushn_eq_repeat_push]
  induction n with
  | zero => rfl
  | succ n ih => rw [Nat.repeat, String.toList_push, ih, List.replicate_succ']

/-- What the test holds for is taken from the end, when it holds for nothing before. -/
theorem rtakeWhile_append {α : Type} {p : α → Bool} {front back : List α}
    (hfront : ∀ a ∈ front, p a = false) (hback : ∀ a ∈ back, p a = true) :
    (front ++ back).rtakeWhile p = back := by
  have hnone : front.reverse.takeWhile p = [] := by
    rw [List.takeWhile_eq_nil_iff]
    intro hpos
    have hmem := List.mem_reverse.mp (List.get_mem front.reverse ⟨0, hpos⟩)
    rw [hfront _ hmem]
    exact Bool.false_ne_true
  have hall : ∀ a ∈ back.reverse, p a = true := fun a ha => hback a (List.mem_reverse.mp ha)
  rw [List.rtakeWhile, List.reverse_append, List.takeWhile_append_of_pos hall, hnone,
    List.append_nil, List.reverse_reverse]

end Text

namespace Statistics

/-- The titles and the figures of a summary. -/
def entries (summary : Summary) : List (String × Nat) :=
  [("🔍 Total", summary.total), ("🎯 Found", summary.found), ("👻 Missing", summary.missing),
    ("🚫 Failed", summary.failed), ("⛔ Cancelled", summary.cancelled)]

/-- A title and a figure with dots between them, without the end of their line. -/
def titled (title : String) (figure : Nat) : String :=
  title ++ "".pushn '.' (width - title.length - figure.repr.length) ++ figure.repr

/-- The line shows a figure below a title. -/
structure Shows (title : String) (figure : Nat) (line : String) : Prop where
  /-- The title takes no more than all columns. -/
  title_le : title.length ≤ width
  /-- After the title there are dots, and after the dots all digits. -/
  line_eq : ∃ dots, line = title ++ "".pushn '.' dots ++ figure.repr
  /-- If the digits fit, then the line has all columns. -/
  fitting : figure.repr.length ≤ width - title.length → line.length = width
  /-- If they do not, then it has no dots. -/
  overlong : ¬ figure.repr.length ≤ width - title.length → '.' ∉ line.toList

/-- What the titles have in common: they leave columns, and are no digits, dots or ends of
lines. -/
structure IsTitle (title : String) : Prop where
  /-- It leaves columns for the figure. -/
  length_le : title.length ≤ width
  /-- It is made of other characters. -/
  plain : ∀ c ∈ title.toList, c ≠ '.' ∧ c ≠ '\n' ∧ c.isDigit = false

/-- All titles are such titles, whatever the figures are. -/
theorem isTitle_of_mem {summary : Summary} {entry : String × Nat} (h : entry ∈ entries summary) :
    IsTitle entry.1 := by
  have hall : ((entries .empty).map Prod.fst).all (fun title => decide (title.length ≤ width) &&
      title.toList.all fun c => c != '.' && c != '\n' && !c.isDigit) = true := by
    decide +kernel
  have htitle : entry.1 ∈ (entries summary).map Prod.fst := List.mem_map_of_mem h
  have hplain := List.all_eq_true.mp hall _ htitle
  simp only [Bool.and_eq_true, decide_eq_true_eq, List.all_eq_true, bne_iff_ne,
    Bool.not_eq_true', and_assoc] at hplain
  exact ⟨hplain.1, hplain.2⟩

/-- A line begins with its title and dots, and ends with all digits. -/
theorem toList_titled (title : String) (figure : Nat) : (titled title figure).toList =
    title.toList ++ List.replicate (width - title.length - figure.repr.length) '.' ++
      figure.repr.toList := by
  rw [titled, String.toList_append, String.toList_append, Text.toList_pushn]

/-- A line is as the titles and the columns ask. -/
theorem shows_titled {title : String} (htitle : IsTitle title) (figure : Nat) :
    Shows title figure (titled title figure) where
  title_le := htitle.length_le
  line_eq := ⟨_, rfl⟩
  fitting h := by
    have hle := htitle.length_le
    rw [titled, String.length_append, String.length_append, String.length_pushn,
      String.length_empty]
    omega
  overlong h hdot := by
    have hnone : width - title.length - figure.repr.length = 0 := by omega
    rw [toList_titled, hnone, List.replicate_zero, List.append_nil, List.mem_append] at hdot
    rcases hdot with hdot | hdot
    · exact (htitle.plain _ hdot).1 rfl
    · exact absurd (Text.isDigit_of_mem_repr hdot) (by decide)

/-- A line has no end in it. -/
theorem newline_titled {title : String} (htitle : IsTitle title) (figure : Nat) :
    '\n' ∉ (titled title figure).toList := by
  rw [toList_titled, List.mem_append, List.mem_append, not_or, not_or]
  refine ⟨⟨fun h => (htitle.plain _ h).2.1 rfl, fun h => ?_⟩, fun h => ?_⟩
  · exact absurd (List.eq_of_mem_replicate h) (by decide)
  · exact absurd (Text.isDigit_of_mem_repr h) (by decide)

/-- The figure that a line ends with. -/
def figure? (line : String) : Option Nat :=
  (String.ofList (line.toList.rtakeWhile Char.isDigit)).toNat?

/-- The figure of a line is told by its digits. -/
theorem figure?_titled {title : String} (htitle : IsTitle title) (figure : Nat) :
    figure? (titled title figure) = some figure := by
  have hfront : ∀ c ∈ title.toList ++
      List.replicate (width - title.length - figure.repr.length) '.', c.isDigit = false := by
    intro c hc
    rcases List.mem_append.mp hc with hc | hc
    · exact (htitle.plain c hc).2.2
    · rw [List.eq_of_mem_replicate hc]
      decide
  rw [figure?, toList_titled, Text.rtakeWhile_append hfront fun c => Text.isDigit_of_mem_repr,
    String.ofList_toList, Nat.toNat?_repr]

/-- The lines of the figures. -/
def figureLines (summary : Summary) : List String :=
  (entries summary).map fun entry => titled entry.1 entry.2

/-- There is a line for each figure that shows it. -/
theorem shows_figureLines (summary : Summary) :
    List.Forall₂ (fun entry line => Shows entry.1 entry.2 line) (entries summary)
      (figureLines summary) := by
  rw [figureLines, List.forall₂_map_right_iff, List.forall₂_same]
  exact fun entry hentry => shows_titled (isTitle_of_mem hentry) entry.2

/-- The lines above the failures. -/
def head (summary : Summary) : List String :=
  "📝 Summary" :: "".pushn '-' (width + 1) :: figureLines summary

/-- The text of statistics has its own title first, then a line for each figure, then the
failures. -/
theorem text_eq (statistics : Statistics) (colors : Bool) : statistics.text colors =
    Text.unlines (head statistics.summary) ++ failureList colors statistics.failures := by
  have htitle : "📝 Summary\n" = "📝 Summary" ++ "\n" := rfl
  simp only [text, figures, figureLine, htitle, head, figureLines, entries, titled, List.map_cons,
    List.map_nil, Text.unlines_cons, Text.unlines_nil, String.append_assoc, String.append_empty]

/-- No line above the failures has an end in it. -/
theorem newline_head {summary : Summary} {line : String} (h : line ∈ head summary) :
    '\n' ∉ line.toList := by
  rw [head, List.mem_cons, List.mem_cons] at h
  rcases h with rfl | rfl | h
  · decide
  · decide
  · obtain ⟨entry, hentry, rfl⟩ := List.mem_map.mp h
    exact newline_titled (isTitle_of_mem hentry) entry.2

/-- The figures of some lines. -/
theorem map_figure?_figureLines (summary : Summary) : (figureLines summary).map figure? =
    (entries summary).map fun entry => some entry.2 := by
  rw [figureLines, List.map_map]
  exact List.map_congr_left fun entry hentry => figure?_titled (isTitle_of_mem hentry) entry.2

/-- The summary that a text shows, as it is read from the five lines below its title. -/
def readSummary? (text : String) : Option Summary :=
  match (((Text.linesOf text).drop 2).take 5).map figure? with
  | [some total, some found, some missing, some failed, some cancelled] =>
    some ⟨total, found, missing, failed, cancelled⟩
  | _ => none

/-- The text of statistics shows their summary, whatever failures follow. -/
theorem readSummary?_text (statistics : Statistics) (colors : Bool) :
    readSummary? (statistics.text colors) = some statistics.summary := by
  have hlines : Text.linesOf (statistics.text colors) =
      head statistics.summary ++ Text.linesOf (failureList colors statistics.failures) := by
    rw [text_eq, Text.linesOf_unlines_append fun _ => newline_head]
  have hfive : ((Text.linesOf (statistics.text colors)).drop 2).take 5 =
      figureLines statistics.summary := by
    rw [hlines]
    change (figureLines statistics.summary ++ _).take 5 = _
    exact List.take_left' rfl
  rw [readSummary?, hfive, map_figure?_figureLines]
  rfl

/-- The figures of statistics, whatever they are: each has a line with its title, then dots, then
all of its digits, which has all columns when the digits fit and no dots otherwise. They can be
read again from the text, so the same text shows the same summary, whatever failures follow. -/
theorem figures_exact (statistics : Statistics) (colors : Bool) :
    (∃ lines, List.Forall₂ (fun entry line => Shows entry.1 entry.2 line)
        (entries statistics.summary) lines ∧
      statistics.text colors =
        Text.unlines ("📝 Summary" :: "".pushn '-' (width + 1) :: lines) ++
          failureList colors statistics.failures) ∧
    readSummary? (statistics.text colors) = some statistics.summary ∧
    ∀ (other : Statistics) (otherColors : Bool),
      other.text otherColors = statistics.text colors → other.summary = statistics.summary := by
  refine ⟨⟨figureLines statistics.summary, shows_figureLines _, text_eq statistics colors⟩,
    readSummary?_text statistics colors, fun other otherColors h => ?_⟩
  rw [← Option.some.injEq, ← readSummary?_text other otherColors, h, readSummary?_text]

/-- A figure that takes more columns than there are keeps all of its digits. -/
example : figureLine "🔍 Total" 18446744073709551615 = "🔍 Total18446744073709551615\n" := by
  decide +kernel

end Statistics

end HeaderScan
