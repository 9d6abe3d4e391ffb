import HeaderScan.Proofs.Pool.Events
import HeaderScan.Proofs.Pool.Log

/-!
# The history of a worker

The ledger of a pool is read here worker by worker. Whatever happens to a pool leaves
the history of a worker as it is or makes it grow in one of the ways of `Grown`, so a
property of all histories is an induction over these ways and says nothing of the rest
of the pool.
-/

namespace HeaderScan

/-- Where a worker is, and what it has done so far. -/
structure History where
  /-- The phase of the worker, once it is started. -/
  phase? : Option Phase
  /-- The hosts that it has taken from the queue. -/
  handedOut : List Host
  /-- The hosts whose probe it has started. -/
  called : List Host
  /-- The answers of its probes. -/
  answered : List Response
  /-- The responses that it has made. -/
  made : List Response
  /-- The responses that it has sent. -/
  sent : List Response
  /-- The hosts that were lost with it. -/
  lost : List Host

namespace History

/-- The history before the worker is started. -/
def unstarted : History := ⟨none, [], [], [], [], [], []⟩

/-- A history after one event, when the token is cancelled or not and the receiver of
the responses is there or not. -/
inductive Grown (isCancelled hasReceiver : Bool) (history : History) : History → Prop where
  /-- The worker is started. -/
  | start (hphase : history.phase? = none) :
      Grown isCancelled hasReceiver history { history with phase? := some .idle }
  /-- It begins to wait for a host. -/
  | listen (hphase : history.phase? = some .idle) (htoken : isCancelled = false) :
      Grown isCancelled hasReceiver history { history with phase? := some .listening }
  /-- It stops between two hosts. -/
  | stop {phase : Phase} (hphase : history.phase? = some phase)
      (hfree : phase = .idle ∨ phase = .listening) :
      Grown isCancelled hasReceiver history
        { history with phase? := some (.leaving .returned .consumer) }
  /-- It takes a host. -/
  | take (host : Host) (hphase : history.phase? = some .listening) :
      Grown isCancelled hasReceiver history
        { history with phase? := some (.holding host), handedOut := history.handedOut ++ [host] }
  /-- It starts the probe of its host. -/
  | call {host : Host} (hphase : history.phase? = some (.holding host))
      (htoken : isCancelled = false) :
      Grown isCancelled hasReceiver history
        { history with phase? := some (.probing host), called := history.called ++ [host] }
  /-- It gives up its host because of the cancellation. -/
  | giveUp {phase : Phase} {host : Host} (hphase : history.phase? = some phase)
      (hhost : phase = .holding host ∨ phase = .probing host) (htoken : isCancelled = true) :
      Grown isCancelled hasReceiver history
        { history with
          phase? := some (.sending ⟨host, .cancelled⟩)
          made := history.made ++ [⟨host, .cancelled⟩] }
  /-- The probe of its host answers. -/
  | answer {host : Host} (status : Status) (hphase : history.phase? = some (.probing host)) :
      Grown isCancelled hasReceiver history
        { history with
          phase? := some (.sending ⟨host, status⟩)
          answered := history.answered ++ [⟨host, status⟩]
          made := history.made ++ [⟨host, status⟩] }
  /-- The probe of its host panics. -/
  | panic {host : Host} (hphase : history.phase? = some (.probing host)) :
      Grown isCancelled hasReceiver history
        { history with
          phase? := some (.leaving .panicked .consumer)
          lost := history.lost ++ [host] }
  /-- It sends its response. -/
  | send {response : Response} (hphase : history.phase? = some (.sending response)) :
      Grown isCancelled hasReceiver history
        { history with phase? := some .idle, sent := history.sent ++ [response] }
  /-- It stops because nobody receives its response. -/
  | discard {response : Response} (hphase : history.phase? = some (.sending response))
      (hreceiver : hasReceiver = false) :
      Grown isCancelled hasReceiver history
        { history with
          phase? := some (.leaving .returned .consumer)
          lost := history.lost ++ [response.host] }
  /-- It lets go of a share. -/
  | letGo {phase next : Phase} {exit : Exit} (hphase : history.phase? = some phase)
      (hexit : phase.exit? = some exit) (hnext : next.exit? = some exit) :
      Grown isCancelled hasReceiver history { history with phase? := some next }
  /-- It is dropped. -/
  | abort {phase : Phase} (hphase : history.phase? = some phase) (hworking : phase.isWorking) :
      Grown isCancelled hasReceiver history
        { history with
          phase? := some (.leaving .aborted .consumer)
          lost := history.lost ++ phase.host?.toList }

/-- A history that has grown belongs to a worker that was started. -/
theorem Grown.exists_phase {isCancelled hasReceiver : Bool} {history after : History}
    (h : history.Grown isCancelled hasReceiver after) : ∃ phase, after.phase? = some phase := by
  cases h <;> exact ⟨_, rfl⟩

end History

namespace Pool

/-- The history of a worker of the pool. -/
def history (pool : Pool) (w : Nat) : History where
  phase? := pool.phases[w]?
  handedOut := entriesOf w pool.ledger.handedOut
  called := entriesOf w pool.ledger.called
  answered := entriesOf w (pool.ledger.answered.map Delivery.entry)
  made := entriesOf w (pool.ledger.made.map Delivery.entry)
  sent := entriesOf w (pool.ledger.sent.map Delivery.entry)
  lost := entriesOf w pool.ledger.lost

variable {pool after : Pool} {v w : Nat} {move : Move}

/-- A pool without workers has no histories. -/
@[simp] theorem history_new (capacity slots w : Nat) :
    (Pool.new capacity slots).history w = .unstarted := by
  simp [history, Pool.new, History.unstarted]

theorem history_lose (pool : Pool) (w : Nat) (hosts : List Host) :
    (pool.lose w hosts).history w =
      { pool.history w with lost := (pool.history w).lost ++ hosts } := by
  simp [history, lose]

section Operations

variable {phase : Phase} (hphase : pool.phases[w]? = some phase)

include hphase

theorem history_setPhase (next : Phase) :
    (pool.setPhase w next).history w = { pool.history w with phase? := some next } := by
  simp [history, getElem?_set_of_some hphase]

theorem history_handOut (host : Host) (queue : WorkQueue Host) :
    (pool.handOut w host queue).history w =
      { pool.history w with
        phase? := some (.holding host)
        handedOut := (pool.history w).handedOut ++ [host] } := by
  simp [history, handOut, getElem?_set_of_some hphase]

theorem history_call (host : Host) :
    (pool.call w host).history w =
      { pool.history w with
        phase? := some (.probing host)
        called := (pool.history w).called ++ [host] } := by
  simp [history, call, getElem?_set_of_some hphase]

theorem history_respond (response : Response) :
    (pool.respond w response).history w =
      { pool.history w with
        phase? := some (.sending response)
        made := (pool.history w).made ++ [response] } := by
  simp [history, respond, getElem?_set_of_some hphase]

theorem history_takeAnswer (response : Response) :
    (pool.takeAnswer w response).history w =
      { pool.history w with
        phase? := some (.sending response)
        answered := (pool.history w).answered ++ [response]
        made := (pool.history w).made ++ [response] } := by
  simp [history, takeAnswer, respond, getElem?_set_of_some hphase]

theorem history_deliver (response : Response) (results : Channel Delivery) :
    (pool.deliver w response results).history w =
      { pool.history w with
        phase? := some .idle
        sent := (pool.history w).sent ++ [response] } := by
  simp [history, deliver, getElem?_set_of_some hphase]

theorem history_discard (response : Response) (results : Channel Delivery) :
    (pool.discard w response results).history w =
      { pool.history w with
        phase? := some (.leaving .returned .consumer)
        lost := (pool.history w).lost ++ [response.host] } := by
  simp [history, discard, lose, leave, getElem?_set_of_some hphase]

end Operations

/-- Letting go of a share changes nothing in the history of a worker but its phase. -/
theorem history_letGo {exit : Exit} {share : Share}
    (hphase : pool.phases[w]? = some (.leaving exit share)) :
    ∃ next : Phase, next.exit? = some exit ∧
      (pool.letGo w exit share).history w = { pool.history w with phase? := some next } := by
  cases share with
  | consumer => exact ⟨.leaving exit .sender, rfl, history_setPhase hphase _⟩
  | sender => exact ⟨.leaving exit .guard, rfl, history_setPhase hphase _⟩
  | guard => exact ⟨.gone exit, rfl, history_setPhase hphase _⟩

/-- A move leaves the histories of the other workers as they are. -/
theorem Moved.history_of_ne (h : Moved pool w move after) (hv : w ≠ v) :
    after.history v = pool.history v := by
  cases h with
  | @letGo _ share => cases share <;> simp [history, Pool.letGo, hv]
  | _ =>
    simp [history, leave, lose, handOut, Pool.call, respond, takeAnswer, deliver, discard, hv]

/-- A move makes the history of its worker grow. -/
theorem Moved.history_grown (h : Moved pool w move after) :
    (pool.history w).Grown pool.isCancelled pool.results.hasReceiver (after.history w) := by
  cases h with
  | listen hphase htoken =>
    rw [history_setPhase hphase]
    exact .listen hphase htoken
  | retire hphase =>
    rw [leave, history_setPhase hphase]
    exact .stop hphase (.inl rfl)
  | heed hphase | finish hphase =>
    rw [leave, history_setPhase hphase]
    exact .stop hphase (.inr rfl)
  | take hphase =>
    rw [history_handOut hphase]
    exact .take _ hphase
  | call hphase htoken =>
    rw [history_call hphase]
    exact .call hphase htoken
  | giveUp hphase htoken =>
    rw [history_respond hphase]
    exact .giveUp hphase (.inl rfl) htoken
  | abandon hphase htoken =>
    rw [history_respond hphase]
    exact .giveUp hphase (.inr rfl) htoken
  | answer status hphase =>
    rw [history_takeAnswer hphase]
    exact .answer status hphase
  | panic hphase =>
    rw [leave, history_lose, history_setPhase hphase]
    exact .panic hphase
  | send hphase =>
    rw [history_deliver hphase]
    exact .send hphase
  | refuse hphase hreceiver =>
    rw [history_discard hphase]
    exact .discard hphase hreceiver
  | letGo hphase =>
    obtain ⟨next, hnext, hhistory⟩ := history_letGo hphase
    rw [hhistory]
    exact .letGo hphase rfl hnext

/-- A new worker starts its history; it has the next number. -/
theorem history_spawn (pool : Pool) (w : Nat) :
    pool.spawn.history w = pool.history w ∨
      (pool.history w).phase? = none ∧
        pool.spawn.history w = { pool.history w with phase? := some .idle } := by
  have hphases : pool.spawn.phases[w]? =
      if w = pool.phases.length then some .idle else pool.phases[w]? := by
    by_cases hw : w = pool.phases.length
    · simp [hw]
    · by_cases hlt : w < pool.phases.length
      · simp [List.getElem?_append, hw, hlt]
      · simp [List.getElem?_append, hw, hlt]
        omega
  by_cases hw : w = pool.phases.length
  · right
    refine ⟨by simp [history, hw], ?_⟩
    simp only [history, hphases, if_pos hw]
    rfl
  · left
    simp only [history, hphases, if_neg hw]
    rfl

/-- Whatever happens to a pool, the history of a worker stays as it is or grows. -/
theorem history_of_happen? {event : Event} (h : pool.happen? event = some after) (w : Nat) :
    after.history w = pool.history w ∨
      (pool.history w).Grown pool.isCancelled pool.results.hasReceiver (after.history w) := by
  cases event with
  | spawn =>
    cases h
    rcases history_spawn pool w with heq | ⟨hphase, heq⟩
    · exact .inl heq
    · rw [heq]
      exact .inr (.start hphase)
  | release | close | cancel | dropReceiver =>
    cases h
    exact .inl rfl
  | offer host =>
    rw [happen?_offer h]
    exact .inl rfl
  | receive =>
    obtain ⟨_, _, _, rfl⟩ := happen?_receive h
    exact .inl rfl
  | move v move =>
    have hmoved := moved_of_move? h
    by_cases hv : v = w
    · subst hv
      exact .inr hmoved.history_grown
    · exact .inl (hmoved.history_of_ne hv)
  | abort v =>
    obtain ⟨phase, hphase, hworking, rfl⟩ := happen?_abort h
    by_cases hv : v = w
    · subst hv
      right
      change (pool.history v).Grown _ _
        (((pool.leave v .aborted).lose v phase.host?.toList).history v)
      rw [history_lose, leave, history_setPhase hphase]
      exact .abort hphase hworking
    · left
      simp [history, leave, lose, hv]

end Pool

end HeaderScan
