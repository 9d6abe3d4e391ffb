import HeaderScan.Host
import HeaderScan.StatusCode

/-!
# Responses

The outcome of probing one host, and the line that reports it. A match is
reported as `Found on host …`; everything else starts with the host itself.
-/

namespace HeaderScan

/-- The outcome of probing a host. -/
inductive Status where
  /-- The response carried the header, with this value. -/
  | found (value : String)
  /-- The response did not carry the header, or carried it empty. -/
  | missing (code : StatusCode)
  /-- No response came in time. -/
  | timeout
  /-- The request failed. -/
  | error (cause : String)
  /-- The scan was cancelled before the probe had answered. -/
  | cancelled
deriving DecidableEq

namespace Status

/-- The header was there. -/
def isFound : Status → Bool
  | found _ => true
  | _ => false

/-- The host could not be requested. -/
def isFailure : Status → Bool
  | timeout | error _ => true
  | _ => false

/-- The outcome in words. -/
def text : Status → String
  | found value => "Found (" ++ value ++ ")"
  | missing code => "Missing (" ++ code.text ++ ")"
  | timeout => "Timeout"
  | error cause => "Runtime error (" ++ cause ++ ")"
  | cancelled => "Cancelled"

end Status

/-- A host together with the outcome of probing it. -/
structure Response where
  /-- The host that was probed. -/
  host : Host
  /-- What the probe answered. -/
  status : Status
deriving DecidableEq

namespace Response

/-- The line that reports a response. -/
def line (response : Response) : String :=
  match response.status with
  | .found value => "Found on host " ++ response.host.text ++ " " ++ value
  | status => response.host.text ++ " " ++ status.text

end Response

end HeaderScan
