import HeaderScan.Proofs.Pool.Cancelled
import HeaderScan.Proofs.Pool.Unheeded
import Mathlib.Algebra.Order.BigOperators.Group.Finset

/-!
# The count that a worker returns

A worker stops by itself for one of three reasons, and returns how many hosts it has
handled. The count is read here against the history of the worker: it is the number of hosts
that the worker has taken, and of these all responses were sent but one that nobody was left
to receive. When all workers have returned, their counts add up to the hosts that left the
queue.
-/

namespace HeaderScan

/-- The entries of all workers are all entries of a log. -/
theorem sum_length_entriesOf {α : Type} {log : List (Nat × α)} {workers : Nat}
    (hworkers : ∀ w, workers ≤ w → entriesOf w log = []) :
    ((List.range workers).map fun w => (entriesOf w log).length).sum = log.length := by
  have hmem : ∀ w ∈ (log.map Prod.fst : Multiset Nat), w ∈ Finset.range workers := by
    intro w hw
    obtain ⟨⟨v, item⟩, hentry, rfl⟩ := List.mem_map.mp (Multiset.mem_coe.mp hw)
    rw [Finset.mem_range]
    by_contra hlt
    have hnone := mem_entriesOf.mpr hentry
    rw [hworkers v (by omega)] at hnone
    cases hnone
  have hsum : ∑ w ∈ Finset.range workers, (entriesOf w log).length = log.length := by
    simpa only [Multiset.coe_count, Multiset.coe_card, List.length_map, count_map_fst]
      using Multiset.sum_count_eq_card hmem
  exact hsum

/-- Why a worker stops by itself. -/
inductive Reason where
  /-- The queue is closed and drained. -/
  | exhausted
  /-- The token is cancelled. -/
  | cancelled
  /-- Nobody is left to receive its response. -/
  | unheard
deriving DecidableEq

namespace History

/-- The worker has stopped by itself. -/
def HasReturned (history : History) : Prop := history.phase?.bind Phase.exit? = some .returned

instance (history : History) : Decidable history.HasReturned :=
  inferInstanceAs (Decidable (_ = _))

/-- How often the worker has stopped by itself. -/
def returns (history : History) : Nat := if history.HasReturned then 1 else 0

/-- The hosts that were lost with the worker when it stopped by itself. -/
def forfeited (history : History) : Nat := if history.HasReturned then history.lost.length else 0

variable {history : History}

theorem returns_eq_zero (h : ¬ history.HasReturned) : history.returns = 0 := if_neg h

theorem returns_eq_one (h : history.HasReturned) : history.returns = 1 := if_pos h

theorem forfeited_eq_zero (h : ¬ history.HasReturned) : history.forfeited = 0 := if_neg h

theorem forfeited_eq_lost (h : history.HasReturned) : history.forfeited = history.lost.length :=
  if_pos h

end History

namespace Pool

variable {pool middle after : Pool} {v w : Nat} {move : Move} {event : Event}

theorem hasReturned_iff {phase : Phase} (hphase : pool.phases[w]? = some phase) :
    (pool.history w).HasReturned ↔ phase.exit? = some .returned := by
  have hhistory : (pool.history w).phase? = some phase := hphase
  rw [History.HasReturned, hhistory, Option.bind_some]

/-- Why a worker stops by itself when an event happens, if it does. -/
def stop? (pool : Pool) (w : Nat) : Event → Option Reason
  | .move v move =>
    if v = w then
      match move, pool.phases[w]? with
      | .look, some .idle | .heed, some .listening =>
        if pool.isCancelled then some .cancelled else none
      | .fetch, some .listening =>
        if pool.queue.items = [] ∧ pool.queue.isOpen = false then some .exhausted else none
      | .send, some (.sending _) => if pool.results.hasReceiver then none else some .unheard
      | _, _ => none
    else none
  | _ => none

/-- The reasons for which a worker stops by itself in the course of some events. -/
def stops (pool : Pool) (w : Nat) : List Event → List Reason
  | [] => []
  | event :: later =>
    (pool.stop? w event).toList ++
      match pool.happen? event with
      | some next => next.stops w later
      | none => []

/-- How many hosts a worker has handled; a worker that is not started has handled none. -/
def handledOf (pool : Pool) (w : Nat) : Nat := (pool.workers[w]?.map (·.handled)).getD 0

@[simp] theorem handledOf_setPhase (pool : Pool) (w v : Nat) (phase : Phase) :
    (pool.setPhase w phase).handledOf v = pool.handledOf v := by
  by_cases hv : w = v
  · subst hv
    simp [handledOf, setPhase, Function.comp_def]
  · simp [handledOf, setPhase, hv]

theorem handledOf_countHandled {phase : Phase} (hphase : pool.phases[w]? = some phase) :
    (pool.countHandled w).handledOf w = pool.handledOf w + 1 := by
  obtain ⟨handled, hworker⟩ := exists_worker hphase
  simp [handledOf, countHandled, hworker]

theorem handledOf_countHandled_ne (hv : w ≠ v) :
    (pool.countHandled w).handledOf v = pool.handledOf v := by
  simp [handledOf, countHandled, hv]

@[simp] theorem handledOf_spawn (pool : Pool) (w : Nat) :
    pool.spawn.handledOf w = pool.handledOf w := by
  rcases Nat.lt_trichotomy w pool.workers.length with hw | hw | hw
  · simp [handledOf, spawn, List.getElem?_append_left hw]
  · simp [handledOf, spawn, hw, Worker.new]
  · have hnone : (pool.workers ++ [Worker.new])[w]? = none := by
      rw [List.getElem?_eq_none_iff, List.length_append]
      exact hw
    rw [handledOf, handledOf, spawn, hnone, List.getElem?_eq_none hw.le]

/-- A move leaves the counts of the other workers as they are. -/
theorem Moved.handledOf_of_ne (h : Moved pool w move after) (hv : w ≠ v) :
    after.handledOf v = pool.handledOf v := by
  cases h with
  | send hphase => exact (handledOf_setPhase _ _ _ _).trans (handledOf_countHandled_ne hv)
  | refuse hphase => exact (handledOf_setPhase _ _ _ _).trans (handledOf_countHandled_ne hv)
  | @letGo _ share => cases share <;> exact handledOf_setPhase _ _ _ _
  | _ => exact handledOf_setPhase _ _ _ _

/-- What is booked for a worker between two states of a pool in which it stops by itself for
these reasons. -/
structure Booked (before after : Pool) (w : Nat) (reasons : List Reason) : Prop where
  /-- A host is counted when its response is sent, or lost because nobody receives it. -/
  handled : after.handledOf w + ((before.history w).sent.length + (before.history w).forfeited) =
    before.handledOf w + ((after.history w).sent.length + (after.history w).forfeited)
  /-- A worker that stops by itself loses a host only when nobody receives its response. -/
  forfeited : (after.history w).forfeited =
    (before.history w).forfeited + reasons.count .unheard
  /-- There is a reason for each end of the work. -/
  returns : (after.history w).returns = (before.history w).returns + reasons.length

namespace Booked

/-- Nothing is booked when nothing happens to the worker. -/
theorem of_eq (hhandled : after.handledOf w = pool.handledOf w)
    (hhistory : after.history w = pool.history w) : Booked pool after w [] where
  handled := by rw [hhandled, hhistory]
  forfeited := by simp [hhistory]
  returns := by simp [hhistory]

/-- Nothing is booked while the worker does not stop by itself and counts what it sends. -/
theorem of_not_returned (hbefore : ¬ (pool.history w).HasReturned)
    (hafter : ¬ (after.history w).HasReturned)
    (hhandled : after.handledOf w + (pool.history w).sent.length =
      pool.handledOf w + (after.history w).sent.length) : Booked pool after w [] where
  handled := by
    rw [History.forfeited_eq_zero hbefore, History.forfeited_eq_zero hafter]
    exact hhandled
  forfeited := by
    rw [History.forfeited_eq_zero hbefore, History.forfeited_eq_zero hafter]
    rfl
  returns := by
    rw [History.returns_eq_zero hbefore, History.returns_eq_zero hafter]
    rfl

/-- An end of the work is booked with its reason when the worker counts what it loses. -/
theorem of_returned {reason : Reason} (hbefore : ¬ (pool.history w).HasReturned)
    (hafter : (after.history w).HasReturned)
    (hlost : (after.history w).lost.length = [reason].count .unheard)
    (hhandled : after.handledOf w + (pool.history w).sent.length =
      pool.handledOf w + ((after.history w).sent.length + (after.history w).lost.length)) :
    Booked pool after w [reason] where
  handled := by
    rw [History.forfeited_eq_zero hbefore, History.forfeited_eq_lost hafter]
    exact hhandled
  forfeited := by
    rw [History.forfeited_eq_zero hbefore, History.forfeited_eq_lost hafter, hlost, Nat.zero_add]
  returns := by
    rw [History.returns_eq_zero hbefore, History.returns_eq_one hafter, List.length_singleton]

/-- What is booked one after the other. -/
theorem trans {first later : List Reason} (hfirst : Booked pool middle w first)
    (hlater : Booked middle after w later) : Booked pool after w (first ++ later) where
  handled := by
    have hone := hfirst.handled
    have htwo := hlater.handled
    omega
  forfeited := by rw [hlater.forfeited, hfirst.forfeited, List.count_append, Nat.add_assoc]
  returns := by rw [hlater.returns, hfirst.returns, List.length_append, Nat.add_assoc]

/-- Nothing is booked for a move between phases in which the worker has not stopped. -/
theorem of_set {old new : Phase} (hphase : pool.phases[w]? = some old)
    (hphases : after.phases = pool.phases.set w new) (hold : old.exit? ≠ some .returned)
    (hnew : new.exit? ≠ some .returned) (hhandled : after.handledOf w = pool.handledOf w)
    (hsent : (after.history w).sent = (pool.history w).sent)
    (hstop : pool.stop? w event = none) : Booked pool after w (pool.stop? w event).toList := by
  have hafter : after.phases[w]? = some new := by
    rw [hphases, getElem?_set_of_some hphase, if_pos rfl]
  rw [hstop]
  refine of_not_returned (mt (hasReturned_iff hphase).mp hold)
    (mt (hasReturned_iff hafter).mp hnew) ?_
  rw [hhandled, hsent]

/-- An end of the work is booked with its reason; without a loss nobody was to blame. -/
theorem of_stop {old : Phase} (reason : Reason) (hphase : pool.phases[w]? = some old)
    (hphases : after.phases = pool.phases.set w (.leaving .returned .consumer))
    (hold : old.exit? ≠ some .returned) (hhandled : after.handledOf w = pool.handledOf w)
    (hsent : (after.history w).sent = (pool.history w).sent) (hlost : (after.history w).lost = [])
    (hstop : pool.stop? w event = some reason) (hreason : reason ≠ .unheard) :
    Booked pool after w (pool.stop? w event).toList := by
  have hafter : after.phases[w]? = some (.leaving .returned .consumer) := by
    rw [hphases, getElem?_set_of_some hphase, if_pos rfl]
  rw [hstop]
  refine of_returned (mt (hasReturned_iff hphase).mp hold) ((hasReturned_iff hafter).mpr rfl) ?_ ?_
  · rw [hlost, List.count_singleton]
    simp [hreason]
  · rw [hhandled, hsent, hlost]
    rfl

end Booked

section Ends

variable {response : Response} {exit : Exit} {share : Share}

/-- A response that is sent is counted. -/
theorem booked_deliver (hphase : pool.phases[w]? = some (.sending response))
    (results : Channel Delivery) : Booked pool (pool.deliver w response results) w [] := by
  have hafter : (pool.deliver w response results).phases[w]? = some .idle := by
    rw [phases_deliver, getElem?_set_of_some hphase, if_pos rfl]
  have hhandled : (pool.deliver w response results).handledOf w = pool.handledOf w + 1 :=
    (handledOf_setPhase _ _ _ _).trans (handledOf_countHandled hphase)
  have hsent := congrArg History.sent (history_deliver hphase response results)
  refine .of_not_returned (mt (hasReturned_iff hphase).mp nofun)
    (mt (hasReturned_iff hafter).mp nofun) ?_
  rw [hhandled, hsent, List.length_append, List.length_singleton]
  omega

/-- A response that nobody receives is counted too, and is what the worker loses. -/
theorem booked_discard (hphase : pool.phases[w]? = some (.sending response))
    (hlost : (pool.history w).lost = []) (results : Channel Delivery) :
    Booked pool (pool.discard w response results) w [.unheard] := by
  have hafter : (pool.discard w response results).phases[w]? =
      some (.leaving .returned .consumer) := by
    rw [phases_discard, getElem?_set_of_some hphase, if_pos rfl]
  have hhandled : (pool.discard w response results).handledOf w = pool.handledOf w + 1 :=
    (handledOf_setPhase _ _ _ _).trans (handledOf_countHandled hphase)
  have hsent : ((pool.discard w response results).history w).sent = (pool.history w).sent := rfl
  have hone : ((pool.discard w response results).history w).lost = [response.host] := by
    rw [history_discard hphase, hlost]
    rfl
  refine .of_returned (mt (hasReturned_iff hphase).mp nofun) ((hasReturned_iff hafter).mpr rfl)
    ?_ ?_
  · rw [hone]
    rfl
  · rw [hhandled, hsent, hone, List.length_singleton]
    omega

/-- Nothing is booked for letting go of a share. -/
theorem booked_letGo (hphase : pool.phases[w]? = some (.leaving exit share)) :
    Booked pool (pool.letGo w exit share) w [] := by
  obtain ⟨next, hnext, hhistory⟩ := history_letGo hphase
  have hhandled : (pool.letGo w exit share).handledOf w = pool.handledOf w := by
    cases share <;> exact handledOf_setPhase _ _ _ _
  have hreturned : ((pool.letGo w exit share).history w).HasReturned ↔
      (pool.history w).HasReturned := by
    rw [hasReturned_iff hphase, hhistory, History.HasReturned, Option.bind_some, hnext]
    rfl
  have hlost := congrArg History.lost hhistory
  have hsent := congrArg History.sent hhistory
  constructor
  · simp only [hhandled, hsent, hlost, History.forfeited, hreturned]
  · simp only [hlost, History.forfeited, hreturned, List.count_nil, Nat.add_zero]
  · simp only [History.returns, hreturned, List.length_nil, Nat.add_zero]

end Ends

/-- What a move books for its worker. -/
theorem Moved.booked (h : Moved pool w move after)
    (hlost : ∀ phase, pool.phases[w]? = some phase → phase.exit? = none →
      (pool.history w).lost = []) :
    Booked pool after w (pool.stop? w (.move w move)).toList := by
  cases h with
  | listen hphase hcause | take hphase hcause | call hphase hcause | giveUp hphase hcause
  | abandon hphase hcause =>
    exact .of_set hphase (phases_setPhase pool w _) nofun nofun (handledOf_setPhase _ _ _ _) rfl
      (by simp [stop?, hphase, hcause])
  | answer _ hphase | panic hphase =>
    exact .of_set hphase (phases_setPhase pool w _) nofun nofun (handledOf_setPhase _ _ _ _) rfl
      (by simp [stop?])
  | retire hphase htoken | heed hphase htoken =>
    exact .of_stop .cancelled hphase (phases_setPhase pool w _) nofun
      (handledOf_setPhase _ _ _ _) rfl (hlost _ hphase rfl) (by simp [stop?, hphase, htoken]) nofun
  | finish hphase hitems hclosed =>
    exact .of_stop .exhausted hphase (phases_setPhase pool w _) nofun
      (handledOf_setPhase _ _ _ _) rfl (hlost _ hphase rfl)
      (by simp [stop?, hphase, hitems, hclosed]) nofun
  | send hphase hreceiver =>
    have hstop : pool.stop? w (.move w .send) = none := by simp [stop?, hphase, hreceiver]
    rw [hstop]
    exact booked_deliver hphase _
  | refuse hphase hreceiver =>
    have hstop : pool.stop? w (.move w .send) = some .unheard := by
      simp [stop?, hphase, hreceiver]
    rw [hstop]
    exact booked_discard hphase (hlost _ hphase rfl) _
  | letGo hphase =>
    have hstop : pool.stop? w (.move w .letGo) = none := by simp [stop?]
    rw [hstop]
    exact booked_letGo hphase

/-- Whatever happens to a pool is booked. -/
theorem booked_of_happen?
    (hsound : (pool.history w).Sound pool.isCancelled pool.results.hasReceiver)
    (h : pool.happen? event = some after) : Booked pool after w (pool.stop? w event).toList := by
  cases event with
  | spawn =>
    cases h
    rcases history_spawn pool w with hhistory | ⟨hnone, hhistory⟩
    · exact .of_eq (handledOf_spawn pool w) hhistory
    · refine .of_not_returned ?_ ?_ ?_
      · rw [History.HasReturned, hnone]
        exact nofun
      · rw [hhistory]
        exact nofun
      · rw [handledOf_spawn, hhistory]
  | release | close | cancel | dropReceiver =>
    cases h
    exact .of_eq rfl rfl
  | offer =>
    rw [happen?_offer h]
    exact .of_eq rfl rfl
  | receive =>
    obtain ⟨_, _, _, rfl⟩ := happen?_receive h
    exact .of_eq rfl rfl
  | move v move =>
    have hmoved := moved_of_move? h
    by_cases hv : v = w
    · subst hv
      exact hmoved.booked fun _ hphase hexit => hsound.lost_of_phase hphase hexit
    · have hstop : pool.stop? w (.move v move) = none := if_neg hv
      rw [hstop]
      exact .of_eq (hmoved.handledOf_of_ne hv) (hmoved.history_of_ne hv)
  | abort v =>
    obtain ⟨phase, hphase, hworking, rfl⟩ := happen?_abort h
    by_cases hv : v = w
    · subst hv
      have hexit := Phase.exit?_of_isWorking hworking
      exact .of_set hphase (phases_setPhase pool v _) (by simp [hexit]) nofun
        (handledOf_setPhase _ _ _ _) rfl rfl
    · refine .of_eq (handledOf_setPhase _ _ _ _) ?_
      simp [history, leave, lose, hv]

/-- All that happens to a pool that can come about is booked. -/
theorem booked_of_follow? {capacity slots : Nat} {events : List Event}
    (hpool : Reachable capacity slots pool) (h : pool.follow? events = some after) :
    Booked pool after w (pool.stops w events) := by
  induction events generalizing pool with
  | nil =>
    cases h
    exact .of_eq rfl rfl
  | cons event later ih =>
    obtain ⟨next, hnext, hlater⟩ := Option.bind_eq_some_iff.mp h
    rw [stops, hnext]
    exact (booked_of_happen? (hpool.sound w) hnext).trans (ih (.step event hpool hnext) hlater)

section Course

variable {capacity slots : Nat} {events : List Event}

/-- Every worker of a pool counts what it sent, and what it lost when nobody received it. -/
theorem handledOf_of_follow? (h : (Pool.new capacity slots).follow? events = some pool) (w : Nat) :
    pool.handledOf w = (pool.history w).sent.length + (pool.history w).forfeited := by
  have hhandled := (booked_of_follow? (w := w) .new h).handled
  have hnone : (Pool.new capacity slots).handledOf w = 0 := rfl
  have hunsent : ((Pool.new capacity slots).history w).sent.length = 0 := rfl
  have hunlost : ((Pool.new capacity slots).history w).forfeited = 0 := by
    rw [history_new]
    rfl
  omega

/-- A worker that has returned did so for one reason, and lost a host only if nobody received
its response. -/
theorem exists_reason (h : (Pool.new capacity slots).follow? events = some pool)
    (hreturned : (pool.history w).HasReturned) :
    ∃ reason, (Pool.new capacity slots).stops w events = [reason] ∧
      (pool.history w).lost.length = if reason = .unheard then 1 else 0 := by
  have hbooked := booked_of_follow? (w := w) .new h
  have hreturns := hbooked.returns
  have hforfeited := hbooked.forfeited
  rw [history_new, History.returns_eq_one hreturned] at hreturns
  rw [history_new, History.forfeited_eq_lost hreturned] at hforfeited
  obtain ⟨reason, hreason⟩ := List.length_eq_one_iff.mp (hreturns.trans (Nat.zero_add _)).symm
  refine ⟨reason, hreason, hforfeited.trans ?_⟩
  rw [hreason, List.count_singleton]
  cases reason <;> rfl

/-- A worker that has returned has handled what it has taken. -/
theorem handledOf_of_returned (h : (Pool.new capacity slots).follow? events = some pool)
    (hreturned : (pool.history w).HasReturned) :
    pool.handledOf w = (pool.history w).handedOut.length := by
  have hsound := (Reachable.new.follow? h).sound w
  have hhost : (pool.history w).phase?.bind Phase.host? = none := by
    obtain ⟨phase, hphase, hexit⟩ := Option.bind_eq_some_iff.mp hreturned
    rw [hphase]
    exact Phase.host?_of_exit? hexit
  rw [handledOf_of_follow? h, hsound.handedOut, hhost, History.forfeited_eq_lost hreturned]
  simp

/-- A worker of a pool counts for itself. -/
theorem handledOf_eq {worker : Worker} (hworker : pool.workers[w]? = some worker) :
    pool.handledOf w = worker.handled := by
  simp [handledOf, hworker]

/-- A worker has returned when its work has ended in this way. -/
theorem hasReturned_of_worker {worker : Worker} (hworker : pool.workers[w]? = some worker)
    (hexit : worker.phase.exit? = some .returned) : (pool.history w).HasReturned := by
  have hphase : pool.phases[w]? = some worker.phase := by simp [getElem?_phases, hworker]
  exact (hasReturned_iff hphase).mpr hexit

/-- The counts of workers that have all returned add up to what left the queue. -/
theorem sum_handled (h : (Pool.new capacity slots).follow? events = some pool)
    (hall : ∀ worker ∈ pool.workers, worker.phase.exit? = some .returned) :
    (pool.workers.map (·.handled)).sum = pool.ledger.handedOut.length := by
  have hcounts : pool.workers.map (·.handled) = (List.range pool.workers.length).map
      fun w => (entriesOf w pool.ledger.handedOut).length := by
    apply List.ext_getElem
    · simp
    · intro w hw hw'
      have hlt : w < pool.workers.length := by simpa using hw
      have hworker := List.getElem?_eq_getElem hlt
      have hreturned := hasReturned_of_worker hworker (hall _ (List.getElem_mem hlt))
      have hhandled := handledOf_of_returned h hreturned
      rw [handledOf_eq hworker] at hhandled
      rw [List.getElem_map, List.getElem_map, List.getElem_range]
      exact hhandled
  rw [hcounts]
  apply sum_length_entriesOf
  intro w hw
  have hnone : pool.phases[w]? = none := by
    rw [getElem?_phases, List.getElem?_eq_none hw]
    rfl
  exact congrArg History.handedOut ((Reachable.new.follow? h).unstarted hnone)

end Course

/-- What the workers of a pool return. However events follow each other, a worker that stops by
itself does so once, for one reason, and returns the number of hosts that it has taken from the
queue; these are the responses that it has sent, and one more exactly when the reason is that
nobody was left to receive. Once the receiver is dropped, no response is sent any more and
every worker takes at most one more host. When all workers have returned, their counts add up
to the number of hosts that the queue has handed out. -/
theorem listen_accounted {capacity slots : Nat} {events : List Event} {pool : Pool}
    (h : (Pool.new capacity slots).follow? events = some pool) :
    (∀ w worker, pool.workers[w]? = some worker → worker.phase.exit? = some .returned →
      ∃ reason, (Pool.new capacity slots).stops w events = [reason] ∧
        worker.handled = (pool.history w).handedOut.length ∧
        worker.handled =
          (pool.history w).sent.length + if reason = .unheard then 1 else 0) ∧
    (pool.results.hasReceiver = false → ∀ later after, pool.follow? later = some after →
      after.ledger.sent = pool.ledger.sent ∧
      ∀ w, ∃ new, (after.history w).handedOut = (pool.history w).handedOut ++ new ∧
        new.length ≤ 1) ∧
    ((∀ worker ∈ pool.workers, worker.phase.exit? = some .returned) →
      (pool.workers.map (·.handled)).sum = pool.ledger.handedOut.length) := by
  refine ⟨fun w worker hworker hexit => ?_, fun hreceiver later after hlater => ?_, sum_handled h⟩
  · have hreturned := hasReturned_of_worker hworker hexit
    obtain ⟨reason, hstops, hlost⟩ := exists_reason h hreturned
    have hhandled := handledOf_of_follow? h w
    rw [History.forfeited_eq_lost hreturned, hlost] at hhandled
    rw [← handledOf_eq hworker]
    exact ⟨reason, hstops, handledOf_of_returned h hreturned, hhandled⟩
  · obtain ⟨-, hsent, hunheeded⟩ := follow?_unheeded hreceiver hlater
    refine ⟨hsent, fun w => ?_⟩
    obtain ⟨new, htaken, hlength⟩ := hunheeded w
    have hone := (pool.history w).toTake_le_one
    exact ⟨new, htaken, by omega⟩

/-- Two workers take a host each, and the first sends its response. -/
def halfReceived : List Event :=
  [.spawn, .spawn, .release, .offer ⟨"a"⟩, .offer ⟨"b"⟩, .move 0 .look, .move 0 .fetch,
    .move 1 .look, .move 1 .fetch, .move 0 .begin, .move 0 (.answer .timeout), .move 0 .send,
    .dropReceiver]

/-- The second worker sends its response to nobody, and the queue is closed. -/
def halfUnheard : List Event :=
  [.move 1 .begin, .move 1 (.answer .timeout), .move 1 .send, .close, .move 0 .look,
    .move 0 .fetch]

/-- The case of two workers of which one stops because nobody receives and the other because
the queue is drained. -/
theorem listen_accounted_unheard : ∃ between last,
    (Pool.new 2 2).follow? halfReceived = some between ∧
    between.follow? halfUnheard = some last ∧
    (∃ reason, (Pool.new 2 2).stops 1 (halfReceived ++ halfUnheard) = [reason] ∧
      1 = (last.history 1).sent.length + if reason = .unheard then 1 else 0) ∧
    last.ledger.sent = between.ledger.sent ∧
    (last.workers.map (·.handled)).sum = last.ledger.handedOut.length := by
  obtain ⟨between, last, hbetween, hlast, hreceiver, hall, hworkers, hworker⟩ :
      ∃ between last, (Pool.new 2 2).follow? halfReceived = some between ∧
        between.follow? halfUnheard = some last ∧ between.results.hasReceiver = false ∧
        (Pool.new 2 2).follow? (halfReceived ++ halfUnheard) = some last ∧
        (∀ worker ∈ last.workers, worker.phase.exit? = some .returned) ∧
        last.workers[1]? = some ⟨.leaving .returned .consumer, 1⟩ :=
    ⟨_, _, rfl, rfl, rfl, rfl, by decide, rfl⟩
  obtain ⟨-, hunheard, -⟩ := listen_accounted hbetween
  obtain ⟨hcounted, -, hsum⟩ := listen_accounted hall
  obtain ⟨reason, hstops, -, hhandled⟩ := hcounted 1 _ hworker rfl
  exact ⟨between, last, hbetween, hlast, ⟨reason, hstops, hhandled⟩,
    (hunheard hreceiver _ _ hlast).1, hsum hworkers⟩

end Pool

end HeaderScan
