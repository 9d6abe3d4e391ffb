import HeaderScan.Host
import HeaderScan.ScanError
import HeaderScan.Queue.Basic

/-!
# Sessions with a work queue

A session lets one producer and any number of consumers start operations on a
queue of hosts. An operation that cannot finish yet is kept, and after every
command the unfinished ones are tried again, oldest first, until none of them
can finish.
-/

namespace HeaderScan

namespace WorkQueue

/-- What an operation asks of the queue. -/
inductive Request where
  /-- Put a host in. -/
  | enqueue (host : Host)
  /-- Take a host out, for the consumer with this number. -/
  | receive (consumer : Nat)
deriving DecidableEq

/-- How an operation ends. -/
inductive Outcome where
  /-- The host was put in. -/
  | enqueued
  /-- The host was refused. -/
  | failed (error : ScanError)
  /-- A host was taken, or none will come any more. -/
  | received (host : Option Host)

/-- Try an operation once: how it ends, and the queue after it, unless it has to wait. -/
def attempt (queue : WorkQueue Host) : Request → Option (Outcome × WorkQueue Host)
  | .enqueue host =>
    match queue.offer host with
    | .accepted queue => some (.enqueued, queue)
    | .refused => some (.failed (.queueClosed host.text), queue)
    | .full => none
  | .receive _ =>
    match queue.take with
    | .item host queue => some (.received (some host), queue)
    | .drained => some (.received none, queue)
    | .empty => none

/-- An operation that has not finished. -/
structure Pending where
  /-- The number of the command that started it. -/
  id : Nat
  /-- What it asks for. -/
  request : Request

/-- An operation that has finished. -/
structure Completion where
  /-- The number of the command that started it. -/
  id : Nat
  /-- How it ended. -/
  outcome : Outcome

/-- What one round of tries leaves behind. -/
structure Round where
  /-- The queue after the tries. -/
  queue : WorkQueue Host
  /-- The operations that still have to wait, oldest first. -/
  waiting : List Pending
  /-- The operations that finished, in the order in which they did. -/
  completed : List Completion

/-- Try every operation once, in the order given. -/
def round (queue : WorkQueue Host) : List Pending → Round
  | [] => ⟨queue, [], []⟩
  | pending :: later =>
    match queue.attempt pending.request with
    | some (outcome, queue) =>
      let rest := round queue later
      { rest with completed := ⟨pending.id, outcome⟩ :: rest.completed }
    | none =>
      let rest := round queue later
      { rest with waiting := pending :: rest.waiting }

/-- Repeat rounds until one finishes nothing. Every other round finishes an
operation, so there are no more rounds than operations. -/
def settleWithin (queue : WorkQueue Host) (pending : List Pending) : Nat → Round
  | 0 => ⟨queue, pending, []⟩
  | rounds + 1 =>
    let first := round queue pending
    if first.completed.isEmpty then first
    else
      let rest := settleWithin first.queue first.waiting rounds
      { rest with completed := first.completed ++ rest.completed }

/-- Repeat rounds of tries until none of the operations can finish. -/
def settle (queue : WorkQueue Host) (pending : List Pending) : Round :=
  settleWithin queue pending pending.length

/-- A queue with its producer, its consumers and the operations under way. -/
structure Session where
  /-- The queue. -/
  queue : WorkQueue Host
  /-- The producer has neither closed the queue nor gone. -/
  hasProducer : Bool
  /-- For each consumer that there ever was, whether it is left. -/
  consumers : List Bool
  /-- The unfinished operations, oldest first. -/
  pending : List Pending
  /-- How many commands there were: the number of the next one. -/
  commands : Nat

/-- What a session can be told to do. -/
inductive Command where
  /-- Start to enqueue a host. -/
  | enqueue (host : Host)
  /-- Start to receive a host as this consumer. -/
  | receive (consumer : Nat)
  /-- Make another consumer like this one. -/
  | clone (consumer : Nat)
  /-- Drop a consumer and what it is waiting for. -/
  | drop (consumer : Nat)
  /-- Drop the unfinished operation with this number. -/
  | cancel (id : Nat)
  /-- Close the queue; the producer is used up. -/
  | close
  /-- Drop the producer, which closes the queue too. -/
  | dropProducer

/-- The answer to a command. -/
inductive Reply where
  | done
  /-- The new consumer has this number. -/
  | consumer (index : Nat)
  /-- The producer still waits to enqueue a host. -/
  | busy
  | noProducer
  | noConsumer

namespace Session

/-- A session with an empty queue, its producer and one consumer. -/
def start (capacity : Nat) : Session := ⟨.bounded capacity, true, [true], [], 0⟩

/-- The consumer is there. -/
def hasConsumer (session : Session) (consumer : Nat) : Bool :=
  session.consumers.getD consumer false

/-- Some enqueue has not finished. -/
def isEnqueueing (session : Session) : Bool :=
  session.pending.any fun pending => pending.request matches .enqueue _

/-- Keep an operation for the tries that follow. -/
def begin (session : Session) (request : Request) : Session :=
  { session with pending := session.pending ++ [⟨session.commands, request⟩] }

/-- The producer leaves, unless it still waits to enqueue a host. -/
def endProduction (session : Session) : Session × Reply :=
  if !session.hasProducer then (session, .noProducer)
  else if session.isEnqueueing then (session, .busy)
  else ({ session with queue := session.queue.close, hasProducer := false }, .done)

/-- Carry out a command without any try. -/
def apply (session : Session) : Command → Session × Reply
  | .enqueue host =>
    if session.hasProducer then (session.begin (.enqueue host), .done)
    else (session, .noProducer)
  | .receive consumer =>
    if session.hasConsumer consumer then (session.begin (.receive consumer), .done)
    else (session, .noConsumer)
  | .clone consumer =>
    if session.hasConsumer consumer then
      ({ session with
          queue := session.queue.addConsumer
          consumers := session.consumers ++ [true] }, .consumer session.consumers.length)
    else (session, .noConsumer)
  | .drop consumer =>
    if session.hasConsumer consumer then
      ({ session with
          queue := session.queue.dropConsumer
          consumers := session.consumers.set consumer false
          pending := session.pending.filter (·.request != .receive consumer) }, .done)
    else (session, .noConsumer)
  | .cancel id => ({ session with pending := session.pending.filter (·.id != id) }, .done)
  | .close | .dropProducer => session.endProduction

/-- Carry out a command and try the unfinished operations until none can finish. -/
def step (session : Session) (command : Command) : Session × Reply × List Completion :=
  let (session, reply) := session.apply command
  let settled := settle session.queue session.pending
  ({ session with
      queue := settled.queue
      pending := settled.waiting
      commands := session.commands + 1 }, reply, settled.completed)

end Session

end WorkQueue

end HeaderScan
