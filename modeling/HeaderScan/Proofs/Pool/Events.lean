import HeaderScan.Proofs.Pool.Moves

/-!
# What can happen to a pool

A pool by itself is an open system: besides the moves of its workers, its maker starts
workers, feeds the queue, receives responses, cancels the token, and may drop a worker
or the receiver. Here all of this is one system of events, in any order.
-/

namespace HeaderScan.Pool

/-- What can happen to a pool. -/
inductive Event where
  /-- One more worker is started. -/
  | spawn
  /-- The maker gives up its own consumer and sender. -/
  | release
  /-- A host is put into the queue. -/
  | offer (host : Host)
  /-- The queue is closed. -/
  | close
  /-- The token is cancelled. -/
  | cancel
  /-- A worker moves. -/
  | move (w : Nat) (move : Move)
  /-- A worker is dropped. -/
  | abort (w : Nat)
  /-- A response is received. -/
  | receive
  /-- The receiver is dropped. -/
  | dropReceiver

/-- The pool after an event, if that event is possible. -/
def happen? (pool : Pool) : Event → Option Pool
  | .spawn => some pool.spawn
  | .release => some pool.release
  | .offer host =>
    match pool.queue.offer host with
    | .accepted queue => some { pool with queue }
    | .full | .refused => none
  | .close => some { pool with queue := pool.queue.close }
  | .cancel => some pool.cancel
  | .move w move => pool.move? w move
  | .abort w => pool.abort? w
  | .receive =>
    match pool.results.receive with
    | .item _ results => some { pool with results }
    | .empty | .closed => none
  | .dropReceiver => some { pool with results := pool.results.dropReceiver }

/-- The pool after events that happen one after the other. -/
def follow? (pool : Pool) : List Event → Option Pool
  | [] => some pool
  | event :: later => (pool.happen? event).bind (·.follow? later)

/-- A pool in this state can come about from one without workers. -/
inductive Reachable (capacity slots : Nat) : Pool → Prop where
  | new : Reachable capacity slots (.new capacity slots)
  | step {before after : Pool} (event : Event) :
      Reachable capacity slots before → before.happen? event = some after →
      Reachable capacity slots after

variable {pool after : Pool}

/-- Events go on where others have led. -/
theorem follow?_append (pool : Pool) (earlier later : List Event) :
    pool.follow? (earlier ++ later) = (pool.follow? earlier).bind (·.follow? later) := by
  induction earlier generalizing pool with
  | nil => rfl
  | cons event earlier ih =>
    rw [List.cons_append, follow?, follow?, Option.bind_assoc]
    exact congrArg (pool.happen? event).bind (funext ih)

/-- What every event keeps is kept by all events that follow. -/
theorem follow?_induction {motive : Pool → Prop}
    (hstep : ∀ {before after : Pool} {event : Event}, motive before →
      before.happen? event = some after → motive after)
    {events : List Event} (hpool : motive pool) (h : pool.follow? events = some after) :
    motive after := by
  induction events generalizing pool with
  | nil => cases h; exact hpool
  | cons event later ih =>
    obtain ⟨next, hnext, hlater⟩ := Option.bind_eq_some_iff.mp h
    exact ih (hstep hpool hnext) hlater

/-- Events that follow a reachable pool lead to a reachable pool. -/
theorem Reachable.follow? {capacity slots : Nat} {events : List Event}
    (hpool : Reachable capacity slots pool) (h : pool.follow? events = some after) :
    Reachable capacity slots after :=
  follow?_induction (fun hbefore hstep => .step _ hbefore hstep) hpool h

/-- A host is put into the queue behind those that are there. -/
theorem happen?_offer {host : Host} (h : pool.happen? (.offer host) = some after) :
    after = { pool with queue := { pool.queue with items := pool.queue.items ++ [host] } } := by
  by_cases hconsumers : pool.queue.consumers = 0 <;>
    by_cases hroom : pool.queue.items.length < pool.queue.capacity <;>
    simp_all [happen?, WorkQueue.offer]

/-- The oldest response is received. -/
theorem happen?_receive (h : pool.happen? .receive = some after) :
    ∃ first rest, pool.results.items = first :: rest ∧
      after = { pool with results := { pool.results with items := rest } } := by
  cases hitems : pool.results.items with
  | nil => by_cases hsenders : pool.results.senders = 0 <;>
      simp [happen?, Channel.receive, hitems, hsenders] at h
  | cons first rest =>
    refine ⟨first, rest, rfl, ?_⟩
    simpa [happen?, Channel.receive, hitems, eq_comm] using h

/-- A worker that is dropped was working, and what it had is lost. -/
theorem happen?_abort {w : Nat} (h : pool.happen? (.abort w) = some after) :
    ∃ phase, pool.phases[w]? = some phase ∧ phase.isWorking = true ∧
      after = { (pool.leave w .aborted).lose w phase.host?.toList with
        results := pool.results.stepOut w } := by
  obtain ⟨worker, hworker, habort⟩ := Option.bind_eq_some_iff.mp h
  refine ⟨worker.phase, by simp [getElem?_phases, hworker], ?_⟩
  split at habort
  case isTrue hworking => exact ⟨hworking, by simpa using habort.symm⟩
  case isFalse => cases habort

/-- Only the moves of workers are written down in the ledger, apart from what is lost. -/
theorem ledger_of_happen? {event : Event} (h : pool.happen? event = some after) :
    (∃ lost, after.ledger = { pool.ledger with lost }) ∨ ∃ w move, Moved pool w move after := by
  cases event with
  | spawn | release | close | cancel | dropReceiver => cases h; exact .inl ⟨_, rfl⟩
  | offer => rw [happen?_offer h]; exact .inl ⟨_, rfl⟩
  | receive => obtain ⟨_, _, _, rfl⟩ := happen?_receive h; exact .inl ⟨_, rfl⟩
  | move w move => exact .inr ⟨w, move, moved_of_move? h⟩
  | abort => obtain ⟨_, _, _, rfl⟩ := happen?_abort h; exact .inl ⟨_, rfl⟩

/-- Only a cancellation touches the token. -/
theorem isCancelled_of_happen? {event : Event} (h : pool.happen? event = some after) :
    after.isCancelled = pool.isCancelled ∨ after = pool.cancel := by
  cases event with
  | spawn | release | close | dropReceiver => cases h; exact .inl rfl
  | cancel => cases h; exact .inr rfl
  | offer => rw [happen?_offer h]; exact .inl rfl
  | receive => obtain ⟨_, _, _, rfl⟩ := happen?_receive h; exact .inl rfl
  | move => exact .inl (moved_of_move? h).flags.1
  | abort => obtain ⟨_, _, _, rfl⟩ := happen?_abort h; exact .inl rfl

/-- A receiver that is dropped does not come back. -/
theorem hasReceiver_of_happen? {event : Event} (h : pool.happen? event = some after) :
    after.results.hasReceiver = pool.results.hasReceiver ∨
      after.results.hasReceiver = false := by
  cases event with
  | spawn | release | close | cancel => cases h; exact .inl rfl
  | dropReceiver => cases h; exact .inr rfl
  | offer => rw [happen?_offer h]; exact .inl rfl
  | receive => obtain ⟨_, _, _, rfl⟩ := happen?_receive h; exact .inl rfl
  | move => exact .inl (moved_of_move? h).flags.2
  | abort => obtain ⟨_, _, _, rfl⟩ := happen?_abort h; exact .inl rfl

end HeaderScan.Pool
