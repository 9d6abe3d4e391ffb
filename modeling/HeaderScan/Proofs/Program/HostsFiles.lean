import HeaderScan.Proofs.Program.Targets

/-!
# The form of a hosts file

Each line of a hosts file is blank, a comment or one host between blanks, and it ends with the
end of a line, which a carriage return can precede, or with the file. The hosts that are read
from a text are those of the only list that the text is written for in this form.
-/

namespace HeaderScan

namespace Text

/-- The text is blank, and on one line. -/
def IsPadding (text : String) : Prop := ∀ c ∈ text.toList, isBlank c = true ∧ c ≠ '\n'

/-- Blanks end no line. -/
theorem IsPadding.newline {padding : String} (h : IsPadding padding) : '\n' ∉ padding.toList :=
  fun hmem => (h _ hmem).2 rfl

/-- Blanks after blanks. -/
theorem IsPadding.append {first second : String} (hfirst : IsPadding first)
    (hsecond : IsPadding second) : IsPadding (first ++ second) := by
  intro c hc
  rw [String.toList_append, List.mem_append] at hc
  exact hc.elim (hfirst c) (hsecond c)

/-- Nothing is blank in no text. -/
theorem isPadding_empty : IsPadding "" := by simp [IsPadding]

/-- A carriage return is blank, and ends no line. -/
theorem isPadding_return : IsPadding "\r" := by
  intro c hc
  rw [List.mem_singleton.mp hc]
  decide

/-- Blanks at the ends leave no trace. -/
theorem trimChars_padded {before after : List Char} (hbefore : ∀ c ∈ before, isBlank c = true)
    (hafter : ∀ c ∈ after, isBlank c = true) (chars : List Char) :
    trimChars (before ++ chars ++ after) = trimChars chars := by
  have hback : ∀ c ∈ after.reverse, isBlank c = true := by simpa using hafter
  unfold trimChars
  rw [List.append_assoc, List.dropWhile_append_of_pos hbefore, List.dropWhile_append]
  split
  next hempty =>
    rw [List.isEmpty_iff.mp hempty, List.dropWhile_eq_nil_iff.mpr hafter]
  next =>
    rw [List.reverse_append, List.dropWhile_append_of_pos hback]

/-- Blanks at the ends of a text leave no trace. -/
theorem trim_padded {before after : String} (hbefore : IsPadding before)
    (hafter : IsPadding after) (text : String) : trim (before ++ text ++ after) = trim text := by
  rw [trim, String.toList_append, String.toList_append,
    trimChars_padded (fun c hc => (hbefore c hc).1) fun c hc => (hafter c hc).1]
  rfl

/-- Nothing is left of blanks. -/
theorem trim_padding {padding : String} (h : IsPadding padding) : trim padding = "" := by
  have htrim := trim_padded h isPadding_empty ""
  rwa [String.append_empty, String.append_empty] at htrim

/-- What begins with a character that is not blank still does so without blanks at the end. -/
theorem head?_trimChars {c : Char} (hc : isBlank c = false) (rest : List Char) :
    (trimChars (c :: rest)).head? = some c := by
  have hstart : trimChars (c :: rest) = (c :: rest).rdropWhile isBlank := by
    have hnot : ¬ isBlank c = true := by simp [hc]
    rw [List.rdropWhile, trimChars, List.dropWhile_cons_of_neg hnot]
  have hsome : (c :: rest).rdropWhile isBlank ≠ [] := by
    rw [ne_eq, List.rdropWhile_eq_nil_iff]
    intro hall
    simp [hc] at hall
  rw [hstart, List.head?_eq_some_head hsome,
    (List.rdropWhile_prefix isBlank (c :: rest)).head hsome]
  rfl

/-- Nothing changes exactly when nothing is blank at the ends. -/
theorem trimChars_eq_self_iff {chars : List Char} : trimChars chars = chars ↔
    (∀ c, chars.head? = some c → isBlank c = false) ∧
      ∀ c, chars.getLast? = some c → isBlank c = false := by
  have hstart : chars.dropWhile isBlank = chars ↔
      ∀ c, chars.head? = some c → isBlank c = false := by
    cases chars <;> simp [List.dropWhile_eq_self_iff]
  have hend : chars.rdropWhile isBlank = chars ↔
      ∀ c, chars.getLast? = some c → isBlank c = false := by
    rcases chars.eq_nil_or_concat with rfl | ⟨front, c, rfl⟩ <;>
      simp [List.rdropWhile_eq_self_iff]
  rw [← hstart, ← hend]
  constructor
  · intro heq
    change (chars.dropWhile isBlank).rdropWhile isBlank = chars at heq
    have hlong : chars.length ≤ (chars.dropWhile isBlank).length := by
      rw [congrArg List.length heq.symm]
      exact (List.rdropWhile_prefix isBlank (chars.dropWhile isBlank)).length_le
    have hfront := (List.dropWhile_suffix isBlank).eq_of_length_le hlong
    rw [hfront] at heq
    exact ⟨hfront, heq⟩
  · rintro ⟨hfront, hback⟩
    change (chars.dropWhile isBlank).rdropWhile isBlank = chars
    rw [hfront, hback]

/-- A line is what is between its blanks, and the blanks. -/
theorem exists_padding {line : String} (hline : '\n' ∉ line.toList) :
    ∃ before after, IsPadding before ∧ IsPadding after ∧ line = before ++ trim line ++ after := by
  let before := line.toList.takeWhile isBlank
  let after := (line.toList.dropWhile isBlank).rtakeWhile isBlank
  have hsplit : line.toList = before ++ trimChars line.toList ++ after := by
    have hback : (line.toList.dropWhile isBlank).rdropWhile isBlank ++ after =
        line.toList.dropWhile isBlank := List.rdropWhile_append_rtakeWhile
    change _ = before ++ (line.toList.dropWhile isBlank).rdropWhile isBlank ++ after
    rw [List.append_assoc, hback, List.takeWhile_append_dropWhile]
  rw [hsplit, List.mem_append, List.mem_append, not_or, not_or] at hline
  obtain ⟨⟨hbefore, -⟩, hafter⟩ := hline
  refine ⟨.ofList before, .ofList after, fun c hc => ?_, fun c hc => ?_, ?_⟩
  · rw [String.toList_ofList] at hc
    exact ⟨List.mem_takeWhile_imp hc, fun heq => hbefore (heq ▸ hc)⟩
  · rw [String.toList_ofList] at hc
    exact ⟨List.mem_rtakeWhile_imp hc, fun heq => hafter (heq ▸ hc)⟩
  · rw [trim, ← String.ofList_append, ← String.ofList_append, ← hsplit, String.ofList_toList]

end Text

namespace HostsFile

open Text

/-- A host can be named by a hosts file when it is not empty, is on one line, and neither has a
blank at an end nor begins as a comment does. -/
theorem nameable_iff {host : Host} : Nameable host ↔
    host.text ≠ "" ∧ '\n' ∉ host.text.toList ∧ host.text.toList.head? ≠ some '#' ∧
      (∀ c, host.text.toList.head? = some c → isBlank c = false) ∧
      ∀ c, host.text.toList.getLast? = some c → isBlank c = false := by
  have htrim : trim host.text = host.text ↔ trimChars host.text.toList = host.text.toList := by
    rw [trim, ← String.toList_inj, String.toList_ofList]
  have hcomment : isComment host.text = false ↔ host.text.toList.head? ≠ some '#' := by
    simp [isComment]
  rw [← hcomment, ← trimChars_eq_self_iff, ← htrim]
  constructor
  · rintro ⟨hnewline, hempty, htrimmed, hcomment⟩
    exact ⟨hempty, hnewline, hcomment, htrimmed⟩
  · rintro ⟨hempty, hnewline, hcomment, htrimmed⟩
    exact ⟨hnewline, hempty, htrimmed, hcomment⟩

/-- The hosts that one line names: what is between its blanks, unless nothing is or it is a
comment. -/
def namedBy (line : String) : List Host :=
  if (!(trim line).isEmpty && !isComment (trim line)) = true then [⟨trim line⟩] else []

/-- A line, and the hosts that it names. -/
inductive Line : String → List Host → Prop where
  /-- A blank line. -/
  | blank {padding : String} (hpadding : IsPadding padding) : Line padding []
  /-- A comment, which can be indented. -/
  | comment {indent remark : String} (hindent : IsPadding indent)
      (hremark : '\n' ∉ remark.toList) : Line (indent ++ "#" ++ remark) []
  /-- A host, with blanks around it. -/
  | host {before after : String} {host : Host} (hhost : Nameable host)
      (hbefore : IsPadding before) (hafter : IsPadding after) :
      Line (before ++ host.text ++ after) [host]

/-- Lines one after the other, and the hosts that they name. -/
inductive Layout : String → List Host → Prop where
  /-- The last line has no end. -/
  | last {line : String} {named : List Host} (hline : Line line named) : Layout line named
  /-- Each earlier line has one, which a carriage return can precede. -/
  | line {line lineEnd rest : String} {named later : List Host} (hline : Line line named)
      (hend : lineEnd = "\n" ∨ lineEnd = "\r\n") (hrest : Layout rest later) :
      Layout (line ++ lineEnd ++ rest) (named ++ later)

/-- No line has an end of a line in it. -/
theorem Line.newline {line : String} {named : List Host} (h : Line line named) :
    '\n' ∉ line.toList := by
  cases h with
  | blank hpadding => exact hpadding.newline
  | comment hindent hremark => simp [hindent.newline, hremark]
  | host hhost hbefore hafter => simp [hbefore.newline, hhost.newline, hafter.newline]

/-- A line names the hosts that are read from it. -/
theorem Line.namedBy_eq {line : String} {named : List Host} (h : Line line named) :
    namedBy line = named := by
  cases h with
  | blank hpadding =>
    rw [namedBy, trim_padding hpadding]
    rfl
  | @comment indent remark hindent hremark =>
    have htrim := trim_padded hindent isPadding_empty ("#" ++ remark)
    rw [String.append_empty, ← String.append_assoc] at htrim
    have hcomment : isComment (trim ("#" ++ remark)) = true := by
      have hhead := head?_trimChars (c := '#') (by decide) remark.toList
      rw [isComment, trim, String.toList_ofList, String.toList_append]
      exact beq_iff_eq.mpr hhead
    rw [namedBy, htrim, hcomment]
    simp
  | @host before after host hhost hbefore hafter =>
    rw [namedBy, trim_padded hbefore hafter, hhost.trimmed, hhost.comment]
    simp [hhost.ne_empty]

/-- A line can have a carriage return at its end. -/
theorem Line.append_return {line : String} {named : List Host} (h : Line line named) :
    Line (line ++ "\r") named := by
  cases h with
  | blank hpadding => exact .blank (hpadding.append isPadding_return)
  | comment hindent hremark =>
    rw [String.append_assoc]
    exact .comment hindent (by simp [hremark])
  | host hhost hbefore hafter =>
    rw [String.append_assoc]
    exact .host hhost hbefore (hafter.append isPadding_return)

/-- The last line names what is read from it. -/
theorem hosts_last {line : String} (hline : '\n' ∉ line.toList) : hosts line = namedBy line := by
  simp only [hosts]
  rw [List.splitOn_eq_singleton hline, List.map_singleton, List.filter_cons]
  change List.map Host.mk (if (!(trim line).isEmpty && !isComment (trim line)) = true
    then _ else _) = _
  rw [namedBy]
  split <;> rfl

/-- A comment begins with its sign. -/
theorem exists_remark {text : String} (h : isComment text = true) :
    ∃ remark, text = "#" ++ remark := by
  obtain ⟨rest, hrest⟩ := List.head?_eq_some_iff.mp (beq_iff_eq.mp h)
  refine ⟨.ofList rest, String.toList_inj.mp ?_⟩
  simp [hrest]

/-- Every line is blank, a comment or a host between blanks. -/
theorem line_namedBy {line : String} (hline : '\n' ∉ line.toList) : Line line (namedBy line) := by
  obtain ⟨before, after, hbefore, hafter, hsplit⟩ := exists_padding hline
  by_cases hempty : trim line = ""
  · have hnamed : namedBy line = [] := by
      rw [namedBy, hempty]
      rfl
    rw [hempty, String.append_empty] at hsplit
    rw [hnamed, hsplit]
    exact .blank (hbefore.append hafter)
  by_cases hcomment : isComment (trim line) = true
  · have hnamed : namedBy line = [] := by simp [namedBy, hcomment]
    obtain ⟨remark, hremark⟩ := exists_remark hcomment
    rw [hremark, ← String.append_assoc, String.append_assoc] at hsplit
    rw [hnamed, hsplit]
    rw [hsplit, String.toList_append, List.mem_append, not_or] at hline
    exact .comment hbefore hline.2
  · have hnamed : namedBy line = [⟨trim line⟩] := by simp [namedBy, hempty, hcomment]
    have hread : (⟨trim line⟩ : Host) ∈ hosts line := by
      rw [hosts_last hline, hnamed]
      exact List.mem_singleton_self _
    rw [hnamed]
    have hwhole := Line.host (nameable_of_mem_hosts hread) hbefore hafter
    rwa [← hsplit] at hwhole

/-- What is laid out is read. -/
theorem Layout.hosts_eq {text : String} {named : List Host} (h : Layout text named) :
    hosts text = named := by
  induction h with
  | last hline => rw [hosts_last hline.newline, hline.namedBy_eq]
  | @line line lineEnd rest named later hline hend hrest ih =>
    rcases hend with rfl | rfl
    · have hread : hosts (line ++ "\n" ++ rest) = namedBy line ++ hosts rest :=
        hosts_line line rest hline.newline
      rw [hread, hline.namedBy_eq, ih]
    · have hreturn := hline.append_return
      have hread : hosts (line ++ "\r" ++ "\n" ++ rest) = namedBy (line ++ "\r") ++ hosts rest :=
        hosts_line (line ++ "\r") rest hreturn.newline
      have hend : "\r" ++ "\n" = "\r\n" := rfl
      rw [← hend, ← String.append_assoc, hread, hreturn.namedBy_eq, ih]

/-- What is read is laid out. -/
theorem layout_hosts (text : String) : Layout text (hosts text) := by
  induction hlength : text.toList.length using Nat.strong_induction_on generalizing text with
  | _ length ih =>
    by_cases hnewline : '\n' ∈ text.toList
    · obtain ⟨first, rest, hsplit, hfirst⟩ := List.eq_append_cons_of_mem hnewline
      have htext : text = .ofList first ++ "\n" ++ .ofList rest := by
        rw [← String.toList_inj, hsplit]
        simp
      have hline : '\n' ∉ (String.ofList first).toList := by rwa [String.toList_ofList]
      have hread : hosts text = namedBy (.ofList first) ++ hosts (.ofList rest) := by
        rw [htext]
        exact hosts_line _ _ hline
      have hrest : (String.ofList rest).toList.length < length := by
        rw [← hlength, hsplit, String.toList_ofList, List.length_append, List.length_cons]
        omega
      rw [hread, htext]
      exact .line (line_namedBy hline) (.inl rfl) (ih _ hrest _ rfl)
    · rw [hosts_last hnewline]
      exact .last (line_namedBy hnewline)

/-- There is a text for any hosts that can be named, and for no others. -/
theorem exists_layout_iff {named : List Host} :
    (∃ text, Layout text named) ↔ ∀ host ∈ named, Nameable host := by
  constructor
  · rintro ⟨text, h⟩ host hhost
    rw [← h.hosts_eq] at hhost
    exact nameable_of_mem_hosts hhost
  · intro h
    have hlayout := layout_hosts (unlines (named.map Host.text))
    rw [hosts_unlines h] at hlayout
    exact ⟨_, hlayout⟩

/-- The form of a hosts file: what is read from a text are hosts that are not empty, are on one
line and neither have a blank at an end nor begin as a comment does, and they are exactly the
hosts that the text is laid out for. Any list of such hosts has a text that is laid out for it. -/
theorem hosts_eq_iff_layout (text : String) :
    (∀ host ∈ hosts text, host.text ≠ "" ∧ '\n' ∉ host.text.toList ∧
      host.text.toList.head? ≠ some '#' ∧
      (∀ c, host.text.toList.head? = some c → isBlank c = false) ∧
      ∀ c, host.text.toList.getLast? = some c → isBlank c = false) ∧
    (∀ named, hosts text = named ↔ Layout text named) ∧
    ∀ named, (∃ file, Layout file named) ↔ ∀ host ∈ named, Nameable host := by
  refine ⟨fun host hhost => nameable_iff.mp (nameable_of_mem_hosts hhost), fun named => ?_,
    fun named => exists_layout_iff⟩
  constructor
  · rintro rfl
    exact layout_hosts text
  · exact Layout.hosts_eq

/-- A carriage return within a line and a sign after the start of a host are part of the host. -/
example : hosts "a # b\t\r\n  # c\n\n \r\n#d\r\n\rb\rc" = [⟨"a # b"⟩, ⟨"b\rc"⟩] := by
  decide +kernel

end HostsFile

end HeaderScan
