import HeaderScan.ScanError
import Std.Data.String.ToNat

/-!
# What an error message tells

A message has an opening and a closing that belong to the kind of the error, and the details of
the error stand between them. No opening begins another one, so whatever text the details are, a
message tells the kind, and with it the details. Two errors are the same if they are of one kind
and have the same details, which is to say if their messages are the same.
-/

namespace HeaderScan.ScanError

/-- The kinds of errors. -/
inductive Kind where
  | invalidWorkerCount
  | buildClient
  | invalidHeaderName
  | invalidHeaderValue
  | queueClosed
deriving DecidableEq

namespace Kind

/-- What a message says before the details. -/
def opening : Kind → String
  | invalidWorkerCount => "Worker count must be greater than zero, got "
  | buildClient => "Cannot build HTTP client: "
  | invalidHeaderName => "Invalid header name `"
  | invalidHeaderValue => "Header value could not be parsed"
  | queueClosed => "Work queue closed before host `"

/-- What a message says after the details. -/
def closing : Kind → String
  | invalidHeaderName => "`"
  | queueClosed => "` could be enqueued"
  | _ => ""

/-- The message of a kind of error with these details. -/
def describe (kind : Kind) (details : String) : String :=
  kind.opening ++ details ++ kind.closing

/-- No opening begins another one, though two have their first four letters in common. -/
theorem eq_of_opening_isPrefix {kind other : Kind} :
    kind.opening.toList <+: other.opening.toList → kind = other := by
  cases kind <;> cases other <;> simp [opening]

/-- A text begins with the opening of no more than one kind. -/
theorem eq_of_opening_append {kind other : Kind} {s t : String}
    (h : kind.opening ++ s = other.opening ++ t) : kind = other := by
  have hchars : kind.opening.toList ++ s.toList = other.opening.toList ++ t.toList := by
    rw [← String.toList_append, h, String.toList_append]
  have hother : other.opening.toList <+: kind.opening.toList ++ s.toList := by
    rw [hchars]
    exact List.prefix_append _ _
  rcases List.prefix_or_prefix_of_prefix (List.prefix_append _ _) hother with hbegins | hbegins
  · exact eq_of_opening_isPrefix hbegins
  · exact (eq_of_opening_isPrefix hbegins).symm

/-- A message tells the kind and the details, whatever text they are. -/
theorem describe_inj {kind other : Kind} {s t : String} :
    kind.describe s = other.describe t ↔ kind = other ∧ s = t := by
  constructor
  · intro h
    rw [describe, describe, String.append_assoc, String.append_assoc] at h
    cases eq_of_opening_append h
    have hclosed : s ++ kind.closing = t ++ kind.closing := (String.append_right_inj _).mp h
    exact ⟨rfl, (String.append_left_inj _).mp hclosed⟩
  · rintro ⟨rfl, rfl⟩
    rfl

end Kind

variable {Cause : Type} [ToString Cause]

/-- The kind of an error. -/
def kind : ScanError Cause → Kind
  | invalidWorkerCount _ => .invalidWorkerCount
  | buildClient _ => .buildClient
  | invalidHeaderName _ => .invalidHeaderName
  | invalidHeaderValue => .invalidHeaderValue
  | queueClosed _ => .queueClosed

/-- The details of an error in words. -/
def details : ScanError Cause → String
  | invalidWorkerCount count => count.repr
  | buildClient cause => toString cause
  | invalidHeaderName name => name
  | invalidHeaderValue => ""
  | queueClosed host => host

/-- The message of an error has its details between the opening and the closing of its kind. -/
theorem message_eq (error : ScanError Cause) :
    error.message = error.kind.describe error.details := by
  cases error with
  | invalidWorkerCount count => exact String.append_empty.symm
  | buildClient cause => exact String.append_empty.symm
  | invalidHeaderName name => rfl
  | invalidHeaderValue => rfl
  | queueClosed host => rfl

/-- Messages are the same for errors of one kind with the same details. -/
theorem message_inj {a b : ScanError Cause} :
    a.message = b.message ↔ a.kind = b.kind ∧ a.details = b.details := by
  rw [message_eq, message_eq, Kind.describe_inj]

/-- Errors are the same if they are of one kind and have the same details. -/
theorem same_iff {a b : ScanError Cause} :
    (a == b) = true ↔ a.kind = b.kind ∧ a.details = b.details := by
  change same a b = true ↔ _
  cases a <;> cases b
  case invalidWorkerCount.invalidWorkerCount count other =>
    -- Counts alone are compared as numbers and not as they are written.
    simp [same, kind, details, Nat.repr_inj]
  all_goals simp [same, kind, details]

/-- Two errors are the same exactly when their messages are, and then they are of one kind and
have the same details. -/
theorem same_iff_message_eq :
    (∀ a b : ScanError Cause, (a == b) = true ↔ a.message = b.message) ∧
    (∀ a b : ScanError Cause,
      a.message = b.message ↔ a.kind = b.kind ∧ a.details = b.details) ∧
    Equivalence fun a b : ScanError Cause => (a == b) = true := by
  have hsame (a b : ScanError Cause) : (a == b) = true ↔ a.message = b.message :=
    same_iff.trans message_inj.symm
  refine ⟨hsame, fun a b => message_inj, ?_, ?_, ?_⟩
  · intro a
    exact (hsame a a).mpr rfl
  · intro a b hab
    exact (hsame b a).mpr ((hsame a b).mp hab).symm
  · intro a b c hab hbc
    exact (hsame a c).mpr (((hsame a b).mp hab).trans ((hsame b c).mp hbc))

end HeaderScan.ScanError
