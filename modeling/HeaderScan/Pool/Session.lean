import HeaderScan.Pool.Polling
import HeaderScan.Queue.Session

/-!
# Sessions with a worker pool

A session drives a pool step by step. After every command the unfinished
enqueues and then the workers are polled, round after round, until a round
changes nothing. A probe answers at once, panics, or hangs until it is resolved.
-/

namespace HeaderScan

namespace Pool

/-- How the probe of a host behaves. -/
inductive ProbeScript where
  /-- It has this result at once. -/
  | immediate (result : ProbeResult)
  /-- It has no result until it is resolved. -/
  | hang

/-- A pool with the producer, the receiver and the spare handles of its maker. -/
structure Session where
  /-- The pool. -/
  pool : Pool
  /-- How the probes behave. -/
  script : Host → ProbeScript
  /-- The maker holds a consumer and a sender of its own. -/
  hasHandles : Bool
  /-- The producer has not closed the queue. -/
  hasProducer : Bool
  /-- The unfinished enqueues, oldest first. -/
  pending : List WorkQueue.Pending
  /-- The workers whose probe hangs, in the order in which the probes were started. -/
  hanging : List Nat
  /-- The workers whose probe was resolved, with its answer. -/
  resolved : List (Nat × Status)
  /-- How many commands there were: the number of the next one. -/
  commands : Nat

/-- What a session can be told to do. -/
inductive Command where
  | spawn
  | release
  | enqueue (host : Host)
  | close
  | cancel
  /-- Answer the oldest hanging probe of a host. -/
  | resolve (host : Host) (status : Status)
  | abort (worker : Nat)
  | receive
  | dropReceiver

/-- The answer to a command. -/
inductive Reply where
  | done
  | busy
  | noProducer
  | noHandles
  | noReceiver
  | notRunning
  | notInFlight
  /-- A response was received. -/
  | response (response : Response)
  /-- There is no response yet. -/
  | empty
  /-- There will be no response any more. -/
  | closed

namespace Session

/-- A session without workers. -/
def start (capacity slots : Nat) (script : Host → ProbeScript) : Session :=
  ⟨.new capacity slots, script, true, true, [], [], [], 0⟩

/-- What the probe of a worker has to say now. -/
def result? (session : Session) (w : Nat) : Option ProbeResult :=
  match session.pool.workers[w]?.bind (·.phase.inFlight?) with
  | none => none
  | some host =>
    match session.script host with
    | .immediate result => some result
    | .hang => (session.resolved.lookup w).map .answer

/-- The hosts whose probes hang, in the order in which the probes were started. -/
def hangingHosts (session : Session) : List Host :=
  session.hanging.filterMap fun w => session.pool.workers[w]?.bind (·.phase.inFlight?)

/-- The hanging probes after a worker has moved from one phase to another. -/
def noteHanging (session : Session) (w : Nat) : Session :=
  match session.pool.workers[w]?.bind (·.phase.inFlight?) with
  | none =>
    { session with
      hanging := session.hanging.erase w
      resolved := session.resolved.filter (·.1 != w) }
  | some host =>
    match session.script host with
    | .immediate _ => session
    | .hang =>
      if session.hanging.contains w then session
      else { session with hanging := session.hanging ++ [w] }

/-- Let a worker run until it can move no more, within so many moves; whether it moved. -/
def pollWorker (session : Session) (w : Nat) : Nat → Session × Bool
  | 0 => (session, false)
  | moves + 1 =>
    match session.pool.advance? (session.result? w) w with
    | none => (session, false)
    | some pool => ((({ session with pool }.noteHanging w).pollWorker w moves).1, true)

/-- Let the workers with these numbers run one after the other; whether one moved. -/
def pollWorkers (session : Session) : List Nat → Session × Bool
  | [] => (session, false)
  | w :: rest =>
    let (session, moved) := session.pollWorker w (session.pool.movesLeft + 1)
    let (session, others) := session.pollWorkers rest
    (session, moved || others)

/-- Try every unfinished enqueue once; how some of them ended. -/
def pollEnqueues (session : Session) : Session × List WorkQueue.Completion :=
  let tried := session.pool.queue.round session.pending
  ({ session with
      pool := { session.pool with queue := tried.queue }
      pending := tried.waiting }, tried.completed)

/-- Poll enqueues and workers until a round changes nothing, within so many rounds. -/
def settle (session : Session) : Nat → Session × List WorkQueue.Completion
  | 0 => (session, [])
  | rounds + 1 =>
    let (session, completed) := session.pollEnqueues
    let (session, moved) := session.pollWorkers (List.range session.pool.workers.length)
    if moved || !completed.isEmpty then
      let (session, later) := session.settle rounds
      (session, completed ++ later)
    else (session, completed)

/-- Receive a response once. -/
def receive (session : Session) : Session × Reply :=
  if !session.pool.results.hasReceiver then (session, .noReceiver)
  else
    match session.pool.results.receive with
    | .item delivery results =>
      ({ session with pool := { session.pool with results } }, .response delivery.response)
    | .empty => (session, .empty)
    | .closed => (session, .closed)

/-- Resolve the oldest hanging probe of a host. -/
def resolve (session : Session) (host : Host) (status : Status) : Session × Reply :=
  let isWaiting (w : Nat) : Bool :=
    (session.pool.workers[w]?.bind (·.phase.inFlight?)) == some host &&
      (session.resolved.lookup w).isNone
  match session.hanging.find? isWaiting with
  | some w => ({ session with resolved := session.resolved ++ [(w, status)] }, .done)
  | none => (session, .notInFlight)

/-- Carry out a command without polling. -/
def apply (session : Session) : Command → Session × Reply
  | .spawn =>
    if session.hasHandles then ({ session with pool := session.pool.spawn }, .done)
    else (session, .noHandles)
  | .release =>
    (if session.hasHandles then
      { session with pool := session.pool.release, hasHandles := false }
    else session, .done)
  | .enqueue host =>
    if session.hasProducer then
      ({ session with
          pending := session.pending ++ [⟨session.commands, .enqueue host⟩] }, .done)
    else (session, .noProducer)
  | .close =>
    if !session.hasProducer then (session, .noProducer)
    else if !session.pending.isEmpty then (session, .busy)
    else
      ({ session with
          pool := { session.pool with queue := session.pool.queue.close }
          hasProducer := false }, .done)
  | .cancel => ({ session with pool := session.pool.cancel }, .done)
  | .resolve host status => session.resolve host status
  | .abort w =>
    match session.pool.abort? w with
    | some pool => ({ session with pool := pool.dismiss w }.noteHanging w, .done)
    | none => (session, .notRunning)
  | .receive => session.receive
  | .dropReceiver =>
    ({ session with
        pool := { session.pool with results := session.pool.results.dropReceiver } }, .done)

/-- What one command brought about. -/
structure Report where
  /-- The answer to the command. -/
  reply : Reply
  /-- The enqueues that ended, in the order in which they did. -/
  completed : List WorkQueue.Completion
  /-- The hosts whose probes were started, in order. -/
  called : List Host

/-- Carry out a command and poll until nothing changes. -/
def step (session : Session) (command : Command) : Session × Report :=
  let before := session.pool.ledger.called.length
  let (session, reply) := session.apply command
  let rounds := session.pool.movesLeft + 7 * session.pending.length + 1
  let (session, completed) := session.settle rounds
  ({ session with commands := session.commands + 1 },
    ⟨reply, completed, (session.pool.ledger.called.drop before).map Prod.snd⟩)

end Session

end Pool

end HeaderScan
