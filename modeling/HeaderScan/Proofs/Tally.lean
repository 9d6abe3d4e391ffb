import HeaderScan.Summary
import Mathlib.Data.List.Induction

/-!
# What a summary counts

A summary is made up as the responses come in. What it says in the end is how many
responses there were of each kind, so the order in which they came leaves no trace.
-/

namespace HeaderScan

namespace Status

/-- The host answered without the header. -/
def isMissing : Status → Bool
  | missing _ => true
  | _ => false

/-- The host was abandoned by a cancellation. -/
def isCancelled : Status → Bool
  | cancelled => true
  | _ => false

theorem isCancelled_iff {status : Status} : status.isCancelled = true ↔ status = .cancelled := by
  cases status <;> simp [isCancelled]

end Status

namespace Summary

/-- A summary of one more response counts one more. -/
theorem tally_concat (responses : List Response) (response : Response) :
    tally (responses ++ [response]) = (tally responses).add response.status := by
  simp [tally]

/-- A summary counts the responses of each kind. -/
theorem tally_eq (responses : List Response) :
    tally responses =
      { total := responses.length
        found := responses.countP (·.status.isFound)
        missing := responses.countP (·.status.isMissing)
        failed := responses.countP (·.status.isFailure)
        cancelled := responses.countP (·.status.isCancelled) } := by
  induction responses using List.reverseRecOn with
  | nil => rfl
  | append_singleton responses response ih =>
    rw [tally_concat, ih]
    cases hstatus : response.status <;>
      simp [add, hstatus, Status.isFound, Status.isMissing, Status.isFailure, Status.isCancelled]

/-- The summary says how many responses there are, and how many of each kind. -/
structure Counts (summary : Summary) (responses : List Response) : Prop where
  /-- All of them. -/
  total : summary.total = responses.length
  /-- Those that carried the header. -/
  found : summary.found = responses.countP (·.status matches .found _)
  /-- Those without the header. -/
  missing : summary.missing = responses.countP (·.status matches .missing _)
  /-- Those that came to a timeout or an error. -/
  failed : summary.failed = responses.countP (·.status matches .timeout | .error _)
  /-- Those that were abandoned by a cancellation. -/
  cancelled : summary.cancelled = responses.countP (·.status matches .cancelled)

/-- The summary of some responses says how many there are of each kind. -/
theorem counts_tally (responses : List Response) : (tally responses).Counts responses := by
  rw [tally_eq]
  exact ⟨rfl, rfl, rfl, rfl, rfl⟩

/-- Every response is counted once among all of them and once by its kind. -/
theorem total_tally (responses : List Response) :
    (tally responses).total = (tally responses).found + (tally responses).missing +
      (tally responses).failed + (tally responses).cancelled := by
  induction responses using List.reverseRecOn with
  | nil => rfl
  | append_singleton responses response ih =>
    rw [tally_concat]
    cases response.status <;> simp only [add] <;> omega

/-- The order of the responses does not matter. -/
theorem tally_perm {responses others : List Response} (h : responses.Perm others) :
    tally responses = tally others := by
  simp only [tally_eq, h.length_eq, h.countP_eq]

end Summary

end HeaderScan
