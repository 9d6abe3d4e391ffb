import HeaderScan.Proofs.Http.FieldMap
import HeaderScan.Proofs.Program.Checks

/-!
# Which lines are request fields

A line is a request field when it has exactly one equals sign, with the name of a field
before it and the value of a field after it. Some lines make a field map exactly when all of
them are such, and in the map each name has the value of its last line; otherwise the first
line that is none says why.
-/

namespace HeaderScan.Http

/-- A name is spelled by characters, in any letter case. -/
theorem FieldName.ofText?_ofList (chars : List Char) : ofText? (.ofList chars) =
    if isName chars then some ⟨(String.ofList chars).map Char.toLower⟩ else none := by
  -- `rw` would compute with the longest length of a name, which takes long.
  delta ofText?
  rw [String.toList_ofList]

namespace FieldLine

/-- The characters before the first equals sign of a line. -/
def nameChars (line : String) : List Char := line.toList.takeWhile (· ≠ '=')

/-- The characters after the first equals sign of a line. -/
def valueChars (line : String) : List Char := (line.toList.dropWhile (· ≠ '=')).tail

/-- The name that a line is for, in lower case. -/
def nameOf (line : String) : FieldName := ⟨(String.ofList (nameChars line)).map Char.toLower⟩

/-- The value that a line sets. -/
def valueOf (line : String) : FieldValue := ⟨Text.encodeUtf8 (.ofList (valueChars line))⟩

/-- A line is a request field. -/
structure WellFormed (line : String) : Prop where
  /-- There is exactly one equals sign. -/
  single : line.toList.count '=' = 1
  /-- Before it stands a name. -/
  name : FieldName.isName (nameChars line) = true
  /-- After it stands a value. -/
  value : (valueOf line).bytes.all FieldValue.isValueByte = true

/-- A line is no request field, for this reason. The number of equals signs comes first, then
the name, then the value. -/
inductive Offends (line : String) : FieldLineError → Prop where
  /-- There is no equals sign, or more than one. -/
  | notKeyValue (hcount : line.toList.count '=' ≠ 1) : Offends line (.notKeyValue line)
  /-- What stands before the equals sign is no name. -/
  | badName (hcount : line.toList.count '=' = 1)
      (hname : FieldName.isName (nameChars line) = false) : Offends line .badName
  /-- What stands after the equals sign is no value. -/
  | badValue (hcount : line.toList.count '=' = 1)
      (hname : FieldName.isName (nameChars line) = true)
      (hvalue : (valueOf line).bytes.all FieldValue.isValueByte = false) : Offends line .badValue

section Split

variable {chars before after : List Char}

/-- Without an equals sign there is one part. -/
theorem splitAtEquals_of_not_mem (h : '=' ∉ chars) : splitAtEquals chars = [chars] := by
  induction chars with
  | nil => rfl
  | cons c rest ih =>
    rw [List.mem_cons, not_or] at h
    rw [splitAtEquals, if_neg (Ne.symm h.1), ih h.2]

/-- The first part ends at the first equals sign. -/
theorem splitAtEquals_append (h : '=' ∉ before) (after : List Char) :
    splitAtEquals (before ++ '=' :: after) = before :: splitAtEquals after := by
  induction before with
  | nil => rfl
  | cons c rest ih =>
    rw [List.mem_cons, not_or] at h
    rw [List.cons_append, splitAtEquals, if_neg (Ne.symm h.1), ih h.2]

/-- There is one more part than there are equals signs. -/
theorem length_splitAtEquals (chars : List Char) :
    (splitAtEquals chars).length = chars.count '=' + 1 := by
  induction chars with
  | nil => rfl
  | cons c rest ih =>
    rw [splitAtEquals, List.count_cons]
    by_cases hc : c = '='
    · rw [if_pos hc, List.length_cons, ih, if_pos (beq_iff_eq.mpr hc)]
    · rw [if_neg hc, if_neg (by simpa using hc)]
      cases hparts : splitAtEquals rest with
      | nil =>
        rw [hparts] at ih
        cases ih
      | cons first others =>
        rw [hparts] at ih
        exact ih

/-- With one equals sign the parts are what stands before and after it. -/
theorem splitAtEquals_of_count (h : chars.count '=' = 1) : splitAtEquals chars =
    [chars.takeWhile (· ≠ '='), (chars.dropWhile (· ≠ '=')).tail] := by
  have hmem : '=' ∈ chars := List.count_pos_iff.mp (by omega)
  obtain ⟨before, after, rfl, hbefore⟩ := List.eq_append_cons_of_mem hmem
  have hafter : '=' ∉ after := by
    rw [List.count_append, List.count_cons_self, List.count_eq_zero.mpr hbefore] at h
    exact List.count_eq_zero.mp (by omega)
  have hkept : ∀ c ∈ before, decide (c ≠ '=') = true := by
    intro c hc
    rw [decide_eq_true_eq]
    rintro rfl
    exact hbefore hc
  rw [splitAtEquals_append hbefore, splitAtEquals_of_not_mem hafter,
    List.takeWhile_append_of_pos hkept, List.dropWhile_append_of_pos hkept]
  simp

end Split

variable {line : String} {error : FieldLineError}

/-- A line has a name and a value when it has one equals sign. -/
theorem read_eq (line : String) : read line =
    if line.toList.count '=' = 1 then
      .ok (.ofList (nameChars line), .ofList (valueChars line))
    else .error (.notKeyValue line) := by
  have hlength := length_splitAtEquals line.toList
  by_cases hcount : line.toList.count '=' = 1
  · rw [if_pos hcount, read, splitAtEquals_of_count hcount]
    rfl
  · rw [if_neg hcount, read]
    split
    case h_1 name value hparts =>
      rw [hparts, List.length_cons, List.length_singleton] at hlength
      omega
    case h_2 => rfl

/-- A line is parsed by three checks, one after the other. -/
theorem parse_eq (line : String) : parse line =
    if line.toList.count '=' = 1 then
      if FieldName.isName (nameChars line) then
        if (valueOf line).bytes.all FieldValue.isValueByte then .ok (nameOf line, valueOf line)
        else .error .badValue
      else .error .badName
    else .error (.notKeyValue line) := by
  have hvalue : FieldValue.ofText? (.ofList (valueChars line)) =
      if (valueOf line).bytes.all FieldValue.isValueByte then some (valueOf line) else none := rfl
  rw [parse, read_eq]
  by_cases hcount : line.toList.count '=' = 1
  · rw [if_pos hcount, if_pos hcount]
    dsimp only [Bind.bind, Except.bind]
    rw [FieldName.ofText?_ofList, hvalue]
    split_ifs <;> rfl
  · rw [if_neg hcount, if_neg hcount]
    rfl

/-- A line that is a field gives its name and value. -/
theorem parse_of_wellFormed (h : WellFormed line) :
    parse line = .ok (nameOf line, valueOf line) := by
  rw [parse_eq, if_pos h.single, if_pos h.name, if_pos h.value]

/-- Parsing a line fails exactly when the line offends, and says why. -/
theorem parse_eq_error_iff : parse line = .error error ↔ Offends line error := by
  rw [parse_eq]
  constructor
  · intro h
    split_ifs at h with hcount hname hvalue
    · cases h
      exact .badValue hcount hname (Bool.eq_false_iff.mpr hvalue)
    · cases h
      exact .badName hcount (Bool.eq_false_iff.mpr hname)
    · cases h
      exact .notKeyValue hcount
  · rintro (hcount | ⟨hcount, hname⟩ | ⟨hcount, hname, hvalue⟩)
    · rw [if_neg hcount]
    · rw [if_pos hcount, hname, if_neg Bool.false_ne_true]
    · rw [if_pos hcount, if_pos hname, hvalue, if_neg Bool.false_ne_true]

/-- Parsing a line does not fail exactly when the line is a field. -/
theorem errorOf?_parse_eq_none_iff : errorOf? (parse line) = none ↔ WellFormed line := by
  constructor
  · intro h
    obtain ⟨field, hfield⟩ := exists_of_errorOf? h
    rw [parse_eq] at hfield
    split_ifs at hfield with hcount hname hvalue
    exact ⟨hcount, hname, hvalue⟩
  · intro h
    rw [parse_of_wellFormed h]
    rfl

/-- What some lines put into a map, one after the other. -/
def insertAll (map : FieldMap) (lines : List String) : FieldMap :=
  lines.foldl (fun map line => map.insert (nameOf line) (valueOf line)) map

/-- Lines that are fields are put into the map. -/
theorem addAll_of_wellFormed {lines : List String} (h : ∀ line ∈ lines, WellFormed line)
    (map : FieldMap) : addAll map lines = .ok (insertAll map lines) := by
  induction lines generalizing map with
  | nil => rfl
  | cons line later ih =>
    obtain ⟨hline, hlater⟩ := List.forall_mem_cons.mp h
    rw [addAll, parse_of_wellFormed hline]
    exact ih hlater (map.insert (nameOf line) (valueOf line))

/-- The lines make a map exactly when each of them is a field. -/
theorem exists_parseAll_iff {lines : List String} :
    (∃ map, parseAll lines = .ok map) ↔ ∀ line ∈ lines, WellFormed line := by
  constructor
  · rintro ⟨map, hmap⟩ line hline
    have hnone : errorOf? (addAll .empty lines) = none := by
      rw [← parseAll, hmap]
      rfl
    rw [Invocation.errorOf?_addAll, List.findSome?_eq_none_iff] at hnone
    exact errorOf?_parse_eq_none_iff.mp (hnone line hline)
  · intro h
    exact ⟨_, addAll_of_wellFormed h .empty⟩

/-- The first line that is no field says why the lines make no map. -/
theorem parseAll_eq_error_iff {lines : List String} : parseAll lines = .error error ↔
    ∃ earlier line later, lines = earlier ++ line :: later ∧
      (∀ other ∈ earlier, WellFormed other) ∧ Offends line error := by
  rw [parseAll, ← errorOf?_eq_some, Invocation.errorOf?_addAll, List.findSome?_eq_some_iff]
  simp only [errorOf?_eq_some, parse_eq_error_iff, errorOf?_parse_eq_none_iff,
    and_comm (b := ∀ other ∈ _, _)]

/-- This is the last of some lines for its name, and it sets this value. -/
def LastFor (lines : List String) (name : FieldName) (value : FieldValue) : Prop :=
  ∃ earlier line later, lines = earlier ++ line :: later ∧ nameOf line = name ∧
    valueOf line = value ∧ ∀ other ∈ later, nameOf other ≠ name

/-- The last line of all is the last for its name; for other names it is passed over. -/
theorem lastFor_concat {lines : List String} {name : FieldName} {value : FieldValue} :
    LastFor (lines ++ [line]) name value ↔
      (name, value) = (nameOf line, valueOf line) ∨
        name ≠ nameOf line ∧ LastFor lines name value := by
  constructor
  · rintro ⟨earlier, last, later, hlines, rfl, rfl, hlater⟩
    rcases List.eq_nil_or_concat' later with rfl | ⟨between, final, rfl⟩
    · obtain ⟨-, hlast⟩ := List.append_inj' hlines rfl
      cases hlast
      exact .inl rfl
    · rw [← List.cons_append, ← List.append_assoc] at hlines
      obtain ⟨rfl, hfinal⟩ := List.append_inj' hlines rfl
      cases hfinal
      refine .inr ⟨(hlater line (by simp)).symm, earlier, last, between, rfl, rfl, rfl, ?_⟩
      exact fun other hother => hlater other (List.mem_append_left _ hother)
  · rintro (heq | ⟨hne, earlier, last, later, rfl, rfl, rfl, hlater⟩)
    · cases heq
      exact ⟨lines, line, [], rfl, rfl, rfl, by simp⟩
    · refine ⟨earlier, last, later ++ [line], by simp, rfl, rfl, ?_⟩
      intro other hother
      rcases List.mem_append.mp hother with hother | hother
      · exact hlater other hother
      · rw [List.mem_singleton.mp hother]
        exact hne.symm

/-- In the map of some lines each name has the value of its last line. -/
theorem insertAll_spec (lines : List String) : (insertAll .empty lines).Ordered ∧
    ∀ name value, (name, value) ∈ (insertAll .empty lines).entries ↔ LastFor lines name value := by
  induction lines using List.reverseRecOn with
  | nil =>
    refine ⟨FieldMap.ordered_empty, fun name value => ?_⟩
    simp [insertAll, FieldMap.empty, LastFor]
  | append_singleton lines line ih =>
    obtain ⟨hordered, hentries⟩ := ih
    have hconcat : insertAll .empty (lines ++ [line]) =
        (insertAll .empty lines).insert (nameOf line) (valueOf line) := by
      simp [insertAll]
    rw [hconcat]
    refine ⟨hordered.insert, fun name value => ?_⟩
    rw [hordered.mem_insert, hentries, lastFor_concat]

/-- The map of some lines has increasing names. -/
theorem ordered_of_parseAll {lines : List String} {map : FieldMap}
    (h : parseAll lines = .ok map) : map.Ordered := by
  have hall := exists_parseAll_iff.mp ⟨map, h⟩
  have hinserted : parseAll lines = .ok (insertAll .empty lines) := addAll_of_wellFormed hall .empty
  obtain rfl := Except.ok.inj (h.symm.trans hinserted)
  exact (insertAll_spec lines).1

/-- What some lines come to. They make a map exactly when each line has one equals sign, with
a name before it and a value after it; the map has one entry for each name that a line has in
any letter case, with the value of the last such line. Otherwise the error is that of the first
line that is no field, for which the number of equals signs comes before the name and the name
before the value. -/
theorem fields_determined (lines : List String) :
    ((∃ map, parseAll lines = .ok map) ↔ ∀ line ∈ lines, WellFormed line) ∧
    (∀ map, parseAll lines = .ok map →
      (map.entries.map Prod.fst).Nodup ∧
      ∀ name value, (name, value) ∈ map.entries ↔ LastFor lines name value) ∧
    ∀ error, parseAll lines = .error error ↔
      ∃ earlier line later, lines = earlier ++ line :: later ∧
        (∀ other ∈ earlier, WellFormed other) ∧ Offends line error := by
  refine ⟨exists_parseAll_iff, fun map hmap => ?_, fun error => parseAll_eq_error_iff⟩
  have hall := exists_parseAll_iff.mp ⟨map, hmap⟩
  have hinserted : parseAll lines = .ok (insertAll .empty lines) := addAll_of_wellFormed hall .empty
  obtain rfl := Except.ok.inj (hmap.symm.trans hinserted)
  obtain ⟨hordered, hentries⟩ := insertAll_spec lines
  exact ⟨hordered.nodup, hentries⟩

/-- The cases of a name that is written twice, and of two lines of which the first has no
name and the second no equals sign. -/
theorem fields_determined_twice :
    (∃ map, parseAll ["Accept=a", "x=", "ACCEPT=b"] = .ok map ∧
      (map.entries.map Prod.fst).Nodup ∧ (⟨"accept"⟩, ⟨[0x62]⟩) ∈ map.entries) ∧
    parseAll ["a=1", "=", "b"] = .error .badName := by
  constructor
  · obtain ⟨hok, hmap, -⟩ := fields_determined ["Accept=a", "x=", "ACCEPT=b"]
    have hall : ∀ line ∈ ["Accept=a", "x=", "ACCEPT=b"], WellFormed line := by
      intro line hline
      simp only [List.mem_cons, List.not_mem_nil, or_false] at hline
      rcases hline with rfl | rfl | rfl <;> exact ⟨by decide, by decide +kernel, by decide +kernel⟩
    obtain ⟨map, hparse⟩ := hok.mpr hall
    obtain ⟨hnodup, hentries⟩ := hmap map hparse
    refine ⟨map, hparse, hnodup, (hentries _ _).mpr ?_⟩
    exact ⟨["Accept=a", "x="], "ACCEPT=b", [], rfl, by decide +kernel, by decide +kernel, by simp⟩
  · obtain ⟨-, -, herror⟩ := fields_determined ["a=1", "=", "b"]
    refine (herror _).mpr ⟨["a=1"], "=", ["b"], rfl, ?_, .badName (by decide) (by decide +kernel)⟩
    intro line hline
    rw [List.mem_singleton.mp hline]
    exact ⟨by decide, by decide +kernel, by decide +kernel⟩

end FieldLine

end HeaderScan.Http
