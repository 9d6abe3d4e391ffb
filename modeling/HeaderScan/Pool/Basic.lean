import HeaderScan.Barrier.Basic
import HeaderScan.Pool.Channel
import HeaderScan.Pool.Worker
import HeaderScan.Queue.Basic

/-!
# Worker pools

A pool is a set of workers that share a queue of hosts, a channel for their
responses, a barrier and a cancellation token. It changes by single moves of its
workers and by what is done to it from outside; a move that is not possible has
no result. Where a worker waits for two events and both are there, either move
is possible.
-/

namespace HeaderScan

/-- A response and the number of the worker that made it. -/
structure Delivery where
  /-- The worker. -/
  worker : Nat
  /-- Its response. -/
  response : Response
deriving DecidableEq

/-- What the workers of a pool have done so far, each list in the order in which it
happened. -/
structure Ledger where
  /-- The hosts that left the queue, each with the worker that took it. -/
  handedOut : List (Nat × Host)
  /-- The probes that were started. -/
  called : List (Nat × Host)
  /-- The probes that answered. -/
  answered : List Delivery
  /-- The responses that were made, from an answer or because of the cancellation. -/
  made : List Delivery
  /-- The responses that were sent. -/
  sent : List Delivery
  /-- The hosts that were lost with the worker that had them. -/
  lost : List (Nat × Host)

/-- Workers and what they share. -/
structure Pool where
  /-- The hosts to probe. -/
  queue : WorkQueue Host
  /-- The responses on their way out. -/
  results : Channel Delivery
  /-- The workers, known by their index. -/
  workers : List Worker
  /-- The barrier of which every worker holds a guard. -/
  barrier : Barrier
  /-- The token is cancelled. -/
  isCancelled : Bool
  /-- What has happened so far. -/
  ledger : Ledger

/-- A move of one worker. -/
inductive Move where
  /-- Look at the token, then wait for a host or end. -/
  | look
  /-- End because of the cancellation. -/
  | heed
  /-- Take a host, or end because there will be none. -/
  | fetch
  /-- Look at the token, then start the probe or give up the host. -/
  | begin
  /-- Abandon the probe because of the cancellation. -/
  | abandon
  /-- Take the answer of the probe. -/
  | answer (status : Status)
  /-- The probe panics. -/
  | panic
  /-- Send the response on, or end because nobody receives it. -/
  | send
  /-- Let go of the next share. -/
  | letGo
deriving DecidableEq

namespace Pool

/-- A pool without workers. Its maker holds one consumer and one sender. -/
def new (capacity slots : Nat) : Pool :=
  ⟨.bounded capacity, .withSlots slots, [], .new, false, ⟨[], [], [], [], [], []⟩⟩

/-- The worker is in this phase now. -/
def setPhase (pool : Pool) (w : Nat) (phase : Phase) : Pool :=
  { pool with workers := pool.workers.modify w fun worker => { worker with phase } }

/-- The worker has handled one more host. -/
def countHandled (pool : Pool) (w : Nat) : Pool :=
  { pool with
    workers := pool.workers.modify w fun worker => { worker with handled := worker.handled + 1 } }

/-- The work of a worker is over. -/
def leave (pool : Pool) (w : Nat) (exit : Exit) : Pool := pool.setPhase w (.leaving exit .consumer)

/-- Hosts are lost with a worker. -/
def lose (pool : Pool) (w : Nat) (hosts : List Host) : Pool :=
  { pool with ledger := { pool.ledger with lost := pool.ledger.lost ++ hosts.map (w, ·) } }

/-- The worker has its response and goes in line to send it. -/
def respond (pool : Pool) (w : Nat) (response : Response) : Pool :=
  { pool.setPhase w (.sending response) with
    results := pool.results.lineUp w
    ledger := { pool.ledger with made := pool.ledger.made ++ [⟨w, response⟩] } }

/-- A host leaves the queue for a worker; this is the queue without it. -/
def handOut (pool : Pool) (w : Nat) (host : Host) (queue : WorkQueue Host) : Pool :=
  { pool.setPhase w (.holding host) with
    queue
    ledger := { pool.ledger with handedOut := pool.ledger.handedOut ++ [(w, host)] } }

/-- Take a host from the queue for a listening worker. -/
def fetch? (pool : Pool) (w : Nat) : Option Pool :=
  match pool.queue.take with
  | .item host queue => some (pool.handOut w host queue)
  | .drained => some (pool.leave w .returned)
  | .empty => none

/-- The probe of a host starts. -/
def call (pool : Pool) (w : Nat) (host : Host) : Pool :=
  { pool.setPhase w (.probing host) with
    ledger := { pool.ledger with called := pool.ledger.called ++ [(w, host)] } }

/-- Start the probe of a host that a worker holds, unless the token is cancelled. The
worker is not suspended between the look at the token and the start of the probe. -/
def begin (pool : Pool) (w : Nat) (host : Host) : Pool :=
  if pool.isCancelled then pool.respond w ⟨host, .cancelled⟩ else pool.call w host

/-- The probe of a host answers. -/
def takeAnswer (pool : Pool) (w : Nat) (response : Response) : Pool :=
  let pool := pool.respond w response
  { pool with
    ledger := { pool.ledger with answered := pool.ledger.answered ++ [⟨w, response⟩] } }

/-- The response of a worker is in the channel; this is the channel with it. -/
def deliver (pool : Pool) (w : Nat) (response : Response) (results : Channel Delivery) : Pool :=
  { (pool.countHandled w).setPhase w .idle with
    results
    ledger := { pool.ledger with sent := pool.ledger.sent ++ [⟨w, response⟩] } }

/-- Nobody receives the response of a worker; this is the channel after its attempt. -/
def discard (pool : Pool) (w : Nat) (response : Response) (results : Channel Delivery) : Pool :=
  { ((pool.countHandled w).leave w .returned).lose w [response.host] with results }

/-- Send the response of a worker that stands in line. -/
def send? (pool : Pool) (w : Nat) (response : Response) : Option Pool :=
  match pool.results.send w ⟨w, response⟩ with
  | .sent results => some (pool.deliver w response results)
  | .refused results => some (pool.discard w response results)
  | .full => none

/-- A leaving worker lets go of a share. -/
def letGo (pool : Pool) (w : Nat) (exit : Exit) : Share → Pool
  | .consumer =>
    { pool.setPhase w (.leaving exit .sender) with queue := pool.queue.dropConsumer }
  | .sender =>
    { pool.setPhase w (.leaving exit .guard) with results := pool.results.dropSender }
  | .guard => { pool.setPhase w (.gone exit) with barrier := pool.barrier.release }

/-- The pool after a move of a worker, if that move is possible. -/
def move? (pool : Pool) (w : Nat) (move : Move) : Option Pool := do
  let worker ← pool.workers[w]?
  match move, worker.phase with
  | .look, .idle =>
    some (if pool.isCancelled then pool.leave w .returned else pool.setPhase w .listening)
  | .heed, .listening => if pool.isCancelled then some (pool.leave w .returned) else none
  | .fetch, .listening => pool.fetch? w
  | .begin, .holding host => some (pool.begin w host)
  | .abandon, .probing host =>
    if pool.isCancelled then some (pool.respond w ⟨host, .cancelled⟩) else none
  | .answer status, .probing host => some (pool.takeAnswer w ⟨host, status⟩)
  | .panic, .probing host => some ((pool.leave w .panicked).lose w [host])
  | .send, .sending response => pool.send? w response
  | .letGo, .leaving exit share => some (pool.letGo w exit share)
  | _, _ => none

/-- Start one more worker; it is registered with the barrier first. -/
def spawn (pool : Pool) : Pool :=
  { pool with
    queue := pool.queue.addConsumer
    results := pool.results.addSender
    workers := pool.workers ++ [.new]
    barrier := pool.barrier.register }

/-- The maker of the pool gives up its own consumer and sender. -/
def release (pool : Pool) : Pool :=
  { pool with queue := pool.queue.dropConsumer, results := pool.results.dropSender }

/-- Cancel the token. -/
def cancel (pool : Pool) : Pool := { pool with isCancelled := true }

/-- Drop a worker that still works, with the host it has taken. -/
def abort? (pool : Pool) (w : Nat) : Option Pool := do
  let worker ← pool.workers[w]?
  if worker.phase.isWorking then
    some { (pool.leave w .aborted).lose w worker.phase.host?.toList with
      results := pool.results.stepOut w }
  else none

/-- A bound on the moves that are left to the workers and the receiver: a host in
the queue can bring a listening worker five moves back, and costs one to take. -/
def movesLeft (pool : Pool) : Nat :=
  let moves := pool.workers.foldr (fun worker moves => worker.phase.movesLeft + moves) 0
  moves + 6 * pool.queue.items.length + pool.results.items.length

end Pool

end HeaderScan
