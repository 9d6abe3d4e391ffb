import HeaderScan.Response
import Mathlib.Data.List.Basic
import Std.Data.String.ToNat

/-!
# What a response line tells

A host without spaces ends at the first space of its line, or at the third space after the
title of a match. No outcome in words begins as that title goes on, so a line tells a match
from everything else, and with it the host and all of the outcome.
-/

namespace HeaderScan

namespace Text

/-- A word ends at the first space. -/
theorem takeWhile_word {word : String} (hword : ' ' ∉ word.toList) (rest : String) :
    (word ++ " " ++ rest).toList.takeWhile (· != ' ') = word.toList := by
  have hkept : ∀ c ∈ word.toList, (c != ' ') = true := by
    rintro c hc
    exact bne_iff_ne.mpr fun heq => hword (heq ▸ hc)
  rw [String.append_assoc, String.toList_append, List.takeWhile_append_of_pos hkept,
    String.toList_append]
  exact List.append_nil _

/-- A word and what follows it are told from the text. -/
theorem word_inj {a b s t : String} (ha : ' ' ∉ a.toList) (hb : ' ' ∉ b.toList) :
    a ++ " " ++ s = b ++ " " ++ t ↔ a = b ∧ s = t := by
  constructor
  · intro h
    have hword : a = b := by
      rw [← String.toList_inj, ← takeWhile_word ha s, ← takeWhile_word hb t, h]
    subst hword
    exact ⟨rfl, (String.append_right_inj _).mp h⟩
  · rintro ⟨rfl, rfl⟩
    rfl

/-- A number is written with digits. -/
theorem isDigit_of_mem_repr {n : Nat} {c : Char} (h : c ∈ n.repr.toList) : c.isDigit = true := by
  rw [Nat.toList_repr] at h
  exact Nat.isDigit_of_mem_toDigits (by decide) (by decide) h

end Text

/-- A status code is the number that it begins with. -/
theorem StatusCode.text_inj {a b : StatusCode} : a.text = b.text ↔ a = b := by
  have hspace (code : StatusCode) : ' ' ∉ code.value.repr.toList :=
    fun hmem => absurd (Text.isDigit_of_mem_repr hmem) (by decide)
  rw [text, text, Text.word_inj (hspace a) (hspace b), Nat.repr_inj]
  constructor
  · rintro ⟨hvalue, -⟩
    cases a
    cases b
    cases hvalue
    rfl
  · rintro rfl
    exact ⟨rfl, rfl⟩

namespace Status

/-- The letter that an outcome in words begins with. -/
def initial : Status → Char
  | found _ => 'F'
  | missing _ => 'M'
  | timeout => 'T'
  | error _ => 'R'
  | cancelled => 'C'

/-- An outcome in words begins with its letter. -/
theorem head?_text (status : Status) : status.text.toList.head? = some status.initial := by
  cases status <;> simp [text, initial]

/-- The kind of an outcome has a letter of its own, and what belongs to it stands in parentheses
that it ends with. -/
theorem text_inj {a b : Status} : a.text = b.text ↔ a = b := by
  refine ⟨fun h => ?_, congrArg text⟩
  have hinitial : a.initial = b.initial := by
    rw [← Option.some.injEq, ← head?_text, ← head?_text, h]
  cases a with
  | found value => cases b with
    | found other => simpa [text] using h
    | _ => simp [initial] at hinitial
  | missing code => cases b with
    | missing other =>
      have hcode : code.text = other.text := by simpa [text] using h
      rw [StatusCode.text_inj.mp hcode]
    | _ => simp [initial] at hinitial
  | timeout => cases b with
    | timeout => rfl
    | _ => simp [initial] at hinitial
  | error cause => cases b with
    | error other => simpa [text] using h
    | _ => simp [initial] at hinitial
  | cancelled => cases b with
    | cancelled => rfl
    | _ => simp [initial] at hinitial

end Status

namespace Response

/-- The first word of a line is that of the title of a match, or else the host. -/
theorem line_cases (response : Response) :
    (∃ value, response.status = .found value ∧ response.line =
      "Found" ++ " " ++ ("on host " ++ (response.host.text ++ " " ++ value))) ∨
    response.line = response.host.text ++ " " ++ response.status.text := by
  unfold line
  cases response.status with
  | found value =>
    refine .inl ⟨value, rfl, ?_⟩
    have htitle : "Found" ++ " " ++ "on host " = "Found on host " := rfl
    simp only [← String.append_assoc, htitle]
  | _ => exact .inr rfl

/-- No outcome in words begins as the title of a match goes on. -/
theorem text_ne_title (status : Status) (rest : String) : status.text ≠ "on host " ++ rest := by
  intro h
  have hhead := status.head?_text
  rw [h] at hhead
  cases status <;> simp [Status.initial] at hhead

/-- Lines of hosts without spaces are the same only for the same response: a line tells whether
it is a match, the host, and the value, the status code or the cause. -/
theorem line_inj {a b : Response} (ha : ' ' ∉ a.host.text.toList) (hb : ' ' ∉ b.host.text.toList) :
    a.line = b.line ↔ a = b := by
  refine ⟨fun h => ?_, congrArg line⟩
  have hfound : ' ' ∉ "Found".toList := by decide
  obtain ⟨⟨first⟩, status⟩ := a
  obtain ⟨⟨second⟩, other⟩ := b
  -- The first words of the two lines are the same, each the title of a match or a host.
  rcases line_cases ⟨⟨first⟩, status⟩ with ⟨value, rfl, hline⟩ | hline
  all_goals rcases line_cases ⟨⟨second⟩, other⟩ with ⟨otherValue, rfl, hother⟩ | hother
  all_goals rw [hline, hother] at h
  · have hrest := ((Text.word_inj hfound hfound).mp h).2
    obtain ⟨rfl, rfl⟩ := (Text.word_inj ha hb).mp ((String.append_right_inj _).mp hrest)
    rfl
  · have hrest := ((Text.word_inj hfound hb).mp h).2
    exact absurd hrest.symm (text_ne_title other _)
  · have hrest := ((Text.word_inj ha hfound).mp h).2
    exact absurd hrest (text_ne_title status _)
  · obtain ⟨rfl, hstatus⟩ := (Text.word_inj ha hb).mp h
    cases Status.text_inj.mp hstatus
    rfl

/-- The case of a host that reads like the title of a match. -/
theorem line_inj_found :
    line ⟨⟨"Found"⟩, .error "on host a) b"⟩ ≠ line ⟨⟨"a)"⟩, .found "b"⟩ := by
  rw [ne_eq, line_inj (by decide) (by decide)]
  decide

/-- With spaces in a host, lines can be the same for different responses. -/
example : line ⟨⟨"Found on host a"⟩, .timeout⟩ = line ⟨⟨"a"⟩, .found "Timeout"⟩ := by decide

end Response

end HeaderScan
