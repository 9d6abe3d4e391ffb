import HeaderScan.Response

/-!
# Summaries

A summary counts responses by their outcome.
-/

namespace HeaderScan

/-- How many responses a scan had, by outcome. -/
structure Summary where
  /-- All responses. -/
  total : Nat
  /-- Responses that carried the header. -/
  found : Nat
  /-- Responses without the header. -/
  missing : Nat
  /-- Hosts that could not be requested. -/
  failed : Nat
  /-- Hosts abandoned by a cancellation. -/
  cancelled : Nat
deriving DecidableEq

namespace Summary

/-- The summary of no response. -/
def empty : Summary := ⟨0, 0, 0, 0, 0⟩

instance : Inhabited Summary := ⟨empty⟩

/-- The summary with one more outcome counted. -/
def add (summary : Summary) (status : Status) : Summary :=
  let counted := { summary with total := summary.total + 1 }
  match status with
  | .found _ => { counted with found := counted.found + 1 }
  | .missing _ => { counted with missing := counted.missing + 1 }
  | .timeout | .error _ => { counted with failed := counted.failed + 1 }
  | .cancelled => { counted with cancelled := counted.cancelled + 1 }

/-- The summary of a list of responses. -/
def tally (responses : List Response) : Summary :=
  responses.foldl (fun summary response => summary.add response.status) empty

end Summary

end HeaderScan
