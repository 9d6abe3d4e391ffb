import HeaderScan.Response

/-!
# Workers

A worker takes hosts from the queue one by one, probes each and sends the
response on, until the queue is drained or the scan is cancelled. At its end it
lets go of its share of the queue, then of the result channel, and last of its
guard of the barrier.
-/

namespace HeaderScan

/-- How the work of a worker ended. -/
inductive Exit where
  /-- It stopped by itself. -/
  | returned
  /-- Its probe panicked. -/
  | panicked
  /-- It was dropped from outside. -/
  | aborted
deriving DecidableEq

/-- What a leaving worker lets go of next. -/
inductive Share where
  | consumer
  | sender
  | guard
deriving DecidableEq

/-- Where a worker is. -/
inductive Phase where
  /-- About to look at the token before it waits for a host. -/
  | idle
  /-- Waiting for a host or the cancellation. -/
  | listening
  /-- It has taken this host and is about to look at the token before it probes it. -/
  | holding (host : Host)
  /-- Waiting for the probe of this host or the cancellation. -/
  | probing (host : Host)
  /-- In line to send this response. -/
  | sending (response : Response)
  /-- The work is over; it lets go of its shares, this one next. -/
  | leaving (exit : Exit) (next : Share)
  /-- It has let go of everything. -/
  | gone (exit : Exit)
deriving DecidableEq

namespace Phase

/-- The worker still works. -/
def isWorking : Phase → Bool
  | leaving _ _ | gone _ => false
  | _ => true

/-- The worker still has its share of the queue. -/
def hasConsumer : Phase → Bool
  | leaving _ .consumer => true
  | phase => phase.isWorking

/-- The worker still has its share of the result channel. -/
def hasSender : Phase → Bool
  | leaving _ .consumer | leaving _ .sender => true
  | phase => phase.isWorking

/-- The worker still holds its guard. -/
def hasGuard : Phase → Bool
  | gone _ => false
  | _ => true

/-- The host that the worker has taken and whose response it has not sent. -/
def host? : Phase → Option Host
  | holding host | probing host => some host
  | sending response => some response.host
  | _ => none

/-- The host whose probe is in flight. -/
def inFlight? : Phase → Option Host
  | probing host => some host
  | _ => none

/-- A bound on the moves that are left to a worker which gets no further host.
Sending counts twice, since what is sent will be received. -/
def movesLeft : Phase → Nat
  | gone _ => 0
  | leaving _ .guard => 1
  | leaving _ .sender => 2
  | leaving _ .consumer => 3
  | listening => 4
  | idle => 5
  | sending _ => 7
  | probing _ => 8
  | holding _ => 9

end Phase

/-- A worker of the pool. -/
structure Worker where
  /-- Where it is. -/
  phase : Phase
  /-- How many hosts it has handled. -/
  handled : Nat
deriving DecidableEq

namespace Worker

/-- A worker that has just started. -/
def new : Worker := ⟨.idle, 0⟩

end Worker

end HeaderScan
