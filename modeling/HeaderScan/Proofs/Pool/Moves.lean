import HeaderScan.Proofs.Pool.Phases

/-!
# What a move can do

`Moved` lists every way in which a worker can move: what it requires of the pool and
what the pool is afterwards. The executable `move?` has exactly these ways, so a
property of all moves needs one look at each of them.
-/

namespace HeaderScan.Pool

/-- The pool after a move of a worker, and what made that move possible. -/
inductive Moved (pool : Pool) (w : Nat) : Move → Pool → Prop where
  /-- The token is not cancelled: the worker waits for a host. -/
  | listen (hphase : pool.phases[w]? = some .idle) (htoken : pool.isCancelled = false) :
      Moved pool w .look (pool.setPhase w .listening)
  /-- The token is cancelled: the worker asks for no host. -/
  | retire (hphase : pool.phases[w]? = some .idle) (htoken : pool.isCancelled = true) :
      Moved pool w .look (pool.leave w .returned)
  /-- The cancellation ends the wait for a host. -/
  | heed (hphase : pool.phases[w]? = some .listening) (htoken : pool.isCancelled = true) :
      Moved pool w .heed (pool.leave w .returned)
  /-- The first host of the queue ends the wait for a host. -/
  | take {host : Host} {rest : List Host} (hphase : pool.phases[w]? = some .listening)
      (hitems : pool.queue.items = host :: rest) :
      Moved pool w .fetch (pool.handOut w host { pool.queue with items := rest })
  /-- No host will come any more. -/
  | finish (hphase : pool.phases[w]? = some .listening) (hitems : pool.queue.items = [])
      (hclosed : pool.queue.isOpen = false) :
      Moved pool w .fetch (pool.leave w .returned)
  /-- The token is not cancelled: the probe starts. -/
  | call {host : Host} (hphase : pool.phases[w]? = some (.holding host))
      (htoken : pool.isCancelled = false) :
      Moved pool w .begin (pool.call w host)
  /-- The token is cancelled: the host is not probed. -/
  | giveUp {host : Host} (hphase : pool.phases[w]? = some (.holding host))
      (htoken : pool.isCancelled = true) :
      Moved pool w .begin (pool.respond w ⟨host, .cancelled⟩)
  /-- The cancellation ends the probe. -/
  | abandon {host : Host} (hphase : pool.phases[w]? = some (.probing host))
      (htoken : pool.isCancelled = true) :
      Moved pool w .abandon (pool.respond w ⟨host, .cancelled⟩)
  /-- The probe answers. -/
  | answer {host : Host} (status : Status) (hphase : pool.phases[w]? = some (.probing host)) :
      Moved pool w (.answer status) (pool.takeAnswer w ⟨host, status⟩)
  /-- The probe panics. -/
  | panic {host : Host} (hphase : pool.phases[w]? = some (.probing host)) :
      Moved pool w .panic ((pool.leave w .panicked).lose w [host])
  /-- It is the turn of the worker, and a slot is free. -/
  | send {response : Response} (hphase : pool.phases[w]? = some (.sending response))
      (hreceiver : pool.results.hasReceiver = true)
      (hturn : pool.results.line.idxOf w < pool.results.free) :
      Moved pool w .send (pool.deliver w response
        { pool.results.stepOut w with items := pool.results.items ++ [⟨w, response⟩] })
  /-- Nobody is left to receive the response. -/
  | refuse {response : Response} (hphase : pool.phases[w]? = some (.sending response))
      (hreceiver : pool.results.hasReceiver = false) :
      Moved pool w .send (pool.discard w response (pool.results.stepOut w))
  /-- The worker is leaving. -/
  | letGo {exit : Exit} {share : Share} (hphase : pool.phases[w]? = some (.leaving exit share)) :
      Moved pool w .letGo (pool.letGo w exit share)

variable {pool after : Pool} {w : Nat} {move : Move}

/-- A move that is possible is one of those listed. -/
theorem moved_of_move? (h : pool.move? w move = some after) : Moved pool w move after := by
  obtain ⟨worker, hworker, hmove⟩ := Option.bind_eq_some_iff.mp h
  have hphase : pool.phases[w]? = some worker.phase := by simp [getElem?_phases, hworker]
  split at hmove
  case h_1 heq =>
    rw [heq] at hphase
    cases htoken : pool.isCancelled <;> simp only [htoken, Option.some.injEq] at hmove <;>
      subst hmove
    · exact .listen hphase htoken
    · exact .retire hphase htoken
  case h_2 heq =>
    rw [heq] at hphase
    split at hmove
    case isTrue htoken => cases hmove; exact .heed hphase htoken
    case isFalse => cases hmove
  case h_3 heq =>
    rw [heq] at hphase
    cases hitems : pool.queue.items with
    | nil =>
      cases hopen : pool.queue.isOpen <;>
        simp [fetch?, WorkQueue.take, hitems, hopen] at hmove
      subst hmove
      exact .finish hphase hitems hopen
    | cons host rest =>
      simp only [fetch?, WorkQueue.take, hitems, Option.some.injEq] at hmove
      subst hmove
      exact .take hphase hitems
  case h_4 heq =>
    rw [heq] at hphase
    cases htoken : pool.isCancelled <;>
      simp only [begin, htoken, Option.some.injEq] at hmove <;> subst hmove
    · exact .call hphase htoken
    · exact .giveUp hphase htoken
  case h_5 heq =>
    rw [heq] at hphase
    split at hmove
    case isTrue htoken => cases hmove; exact .abandon hphase htoken
    case isFalse => cases hmove
  case h_6 heq =>
    rw [heq] at hphase
    cases hmove
    exact .answer _ hphase
  case h_7 heq =>
    rw [heq] at hphase
    cases hmove
    exact .panic hphase
  case h_8 heq =>
    rw [heq] at hphase
    cases hreceiver : pool.results.hasReceiver with
    | false =>
      simp only [send?, Channel.send, hreceiver, Bool.not_false, if_true,
        Option.some.injEq] at hmove
      subst hmove
      exact .refuse hphase hreceiver
    | true =>
      by_cases hturn : pool.results.line.idxOf w < pool.results.free <;>
        simp [send?, Channel.send, hreceiver, hturn] at hmove
      subst hmove
      exact .send hphase hreceiver hturn
  case h_9 heq =>
    rw [heq] at hphase
    cases hmove
    exact .letGo hphase
  case h_10 => cases hmove

/-- Every move that is listed is possible. -/
theorem Moved.move? (h : Moved pool w move after) : pool.move? w move = some after := by
  cases h with
  | listen hphase htoken | retire hphase htoken | heed hphase htoken | call hphase htoken
  | giveUp hphase htoken | abandon hphase htoken =>
    obtain ⟨_, hworker⟩ := exists_worker hphase
    simp [Pool.move?, begin, hworker, htoken]
  | take hphase hitems =>
    obtain ⟨_, hworker⟩ := exists_worker hphase
    simp [Pool.move?, fetch?, WorkQueue.take, hworker, hitems]
  | finish hphase hitems hclosed =>
    obtain ⟨_, hworker⟩ := exists_worker hphase
    simp [Pool.move?, fetch?, WorkQueue.take, hworker, hitems, hclosed]
  | answer _ hphase | panic hphase | letGo hphase =>
    obtain ⟨_, hworker⟩ := exists_worker hphase
    simp [Pool.move?, hworker]
  | send hphase hreceiver hturn =>
    obtain ⟨_, hworker⟩ := exists_worker hphase
    simp [Pool.move?, send?, Channel.send, hworker, hreceiver, hturn]
  | refuse hphase hreceiver =>
    obtain ⟨_, hworker⟩ := exists_worker hphase
    simp [Pool.move?, send?, Channel.send, hworker, hreceiver]

/-! ## What a move leaves as it is -/

/-- No move of a worker touches the token or the receiver of the responses. -/
theorem Moved.flags (h : Moved pool w move after) :
    after.isCancelled = pool.isCancelled ∧
      after.results.hasReceiver = pool.results.hasReceiver := by
  cases h with
  | @letGo _ share => cases share <;> exact ⟨rfl, rfl⟩
  | _ => exact ⟨rfl, rfl⟩

/-- No worker comes or goes by a move. -/
theorem Moved.length_phases (h : Moved pool w move after) :
    after.phases.length = pool.phases.length := by
  cases h with
  | @letGo _ share => cases share <;> simp [Pool.letGo]
  | _ => simp [leave, lose, handOut, Pool.call, respond, takeAnswer]

/-- A move of a worker neither opens nor widens the queue or the channel. -/
theorem Moved.bounds (h : Moved pool w move after) :
    after.queue.capacity = pool.queue.capacity ∧ after.queue.isOpen = pool.queue.isOpen ∧
      after.results.slots = pool.results.slots := by
  cases h with
  | @letGo _ share => cases share <;> exact ⟨rfl, rfl, rfl⟩
  | _ => exact ⟨rfl, rfl, rfl⟩

/-- A host that leaves the queue is handed out; no other host leaves it or comes to it. -/
theorem Moved.taken (h : Moved pool w move after) :
    after.ledger.handedOut.map Prod.snd ++ after.queue.items =
      pool.ledger.handedOut.map Prod.snd ++ pool.queue.items := by
  cases h with
  | take _ hitems => simp [handOut, hitems]
  | @letGo _ share => cases share <;> rfl
  | _ => rfl

/-- A response comes to the channel exactly when it is sent. -/
theorem Moved.sent (h : Moved pool w move after) :
    ∃ new, after.ledger.sent = pool.ledger.sent ++ new ∧
      after.results.items = pool.results.items ++ new := by
  cases h with
  | send => exact ⟨_, rfl, rfl⟩
  | @letGo _ share => cases share <;> exact ⟨[], by simp [Pool.letGo, Channel.dropSender]⟩
  | _ =>
    refine ⟨[], ?_⟩
    simp [leave, lose, handOut, Pool.call, respond, takeAnswer, discard, Channel.lineUp,
      Channel.stepOut]

end HeaderScan.Pool
