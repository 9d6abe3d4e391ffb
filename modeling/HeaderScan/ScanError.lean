import HeaderScan.Http.RequestError

/-!
# Errors of a scan as a whole

A host that cannot be requested is no error of the scan. What can fail is the
set-up, and handing a host to a pool that has gone away.
-/

namespace HeaderScan

/-- Why a scan could not be set up, or a host not be queued. What can be wrong with a client is
left to the library that makes it, as long as it has words for it. -/
inductive ScanError (Cause : Type := Http.RequestError) where
  /-- A scan needs at least one worker. -/
  | invalidWorkerCount (count : Nat)
  /-- The client for a worker could not be made. -/
  | buildClient (cause : Cause)
  /-- The header to look for has no valid name. -/
  | invalidHeaderName (name : String)
  /-- The value of a request header is not valid. -/
  | invalidHeaderValue
  /-- All consumers of the queue were gone when this host was enqueued. -/
  | queueClosed (host : String)

namespace ScanError

variable {Cause : Type} [ToString Cause]

/-- The error in words. -/
def message : ScanError Cause → String
  | invalidWorkerCount count => "Worker count must be greater than zero, got " ++ count.repr
  | buildClient cause => "Cannot build HTTP client: " ++ toString cause
  | invalidHeaderName name => "Invalid header name `" ++ name ++ "`"
  | invalidHeaderValue => "Header value could not be parsed"
  | queueClosed host => "Work queue closed before host `" ++ host ++ "` could be enqueued"

/-- Two errors are the same if they are of one kind and carry the same count or
text; causes are compared by their words. -/
def same : ScanError Cause → ScanError Cause → Bool
  | invalidWorkerCount count, invalidWorkerCount other => count == other
  | buildClient cause, buildClient other => toString cause == toString other
  | invalidHeaderName name, invalidHeaderName other => name == other
  | queueClosed host, queueClosed other => host == other
  | invalidHeaderValue, invalidHeaderValue => true
  | _, _ => false

instance : BEq (ScanError Cause) := ⟨same⟩

end ScanError

end HeaderScan
