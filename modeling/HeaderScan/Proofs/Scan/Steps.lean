import HeaderScan.Proofs.Pool.Events
import HeaderScan.Scan.Basic

/-!
# What a step can do

`Stepped` lists every way in which a scan can make a step, as `Pool.Moved` does for the
moves of a worker. To the pool of the scan each step is one of its events or nothing, so
what holds in every pool that can come about holds in every scan.
-/

namespace HeaderScan.Scan

/-- The scan after a step, and what made that step possible. -/
inductive Stepped (scan : Scan) : Step → Scan → Prop where
  /-- One more worker is started. -/
  | spawn {left : Nat} (hstage : scan.stage = .starting (left + 1)) :
      Stepped scan .spawn { scan with pool := scan.pool.spawn, stage := .starting left }
  /-- All workers are started. -/
  | run (hstage : scan.stage = .starting 0) :
      Stepped scan .run { scan with pool := scan.pool.release, stage := .running }
  /-- A worker moves. -/
  | worker {w : Nat} {move : Move} {pool : Pool} (hmoved : scan.pool.Moved w move pool) :
      Stepped scan (.worker w move) { scan with pool }
  /-- The token is cancelled. -/
  | cancel (htoken : scan.pool.isCancelled = false) :
      Stepped scan .cancel { scan with pool := scan.pool.cancel }
  /-- The feed has offered every host. -/
  | exhaust (hstage : scan.stage = .running) (hfeed : scan.feed = .looking []) :
      Stepped scan .look { scan with feed := .ending [] }
  /-- The token is cancelled: the feed offers nothing more. -/
  | heed {host : Host} {rest : List Host} (hstage : scan.stage = .running)
      (hfeed : scan.feed = .looking (host :: rest)) (htoken : scan.pool.isCancelled = true) :
      Stepped scan .look { scan with feed := .ending (host :: rest) }
  /-- The token is not cancelled: the feed offers the next host. -/
  | look {host : Host} {rest : List Host} (hstage : scan.stage = .running)
      (hfeed : scan.feed = .looking (host :: rest)) (htoken : scan.pool.isCancelled = false) :
      Stepped scan .look { scan with feed := .offering host rest }
  /-- The queue has room for the host. -/
  | offer {host : Host} {rest : List Host} (hstage : scan.stage = .running)
      (hfeed : scan.feed = .offering host rest) (hconsumers : scan.pool.queue.consumers ≠ 0)
      (hroom : scan.pool.queue.items.length < scan.pool.queue.capacity) :
      Stepped scan .offer
        { scan with
          pool := { scan.pool with
            queue := { scan.pool.queue with items := scan.pool.queue.items ++ [host] } }
          feed := .looking rest }
  /-- Nobody is left to take the host. -/
  | refuse {host : Host} {rest : List Host} (hstage : scan.stage = .running)
      (hfeed : scan.feed = .offering host rest) (hconsumers : scan.pool.queue.consumers = 0) :
      Stepped scan .offer { scan with feed := .ending (host :: rest) }
  /-- The cancellation ends the wait for room. -/
  | giveUp {host : Host} {rest : List Host} (hstage : scan.stage = .running)
      (hfeed : scan.feed = .offering host rest) (htoken : scan.pool.isCancelled = true) :
      Stepped scan .giveUp { scan with feed := .ending (host :: rest) }
  /-- The feed closes the queue. -/
  | close {rest : List Host} (hstage : scan.stage = .running)
      (hfeed : scan.feed = .ending rest) :
      Stepped scan .close
        { scan with
          pool := { scan.pool with queue := scan.pool.queue.close }, feed := .done rest }
  /-- The oldest response is reported. -/
  | collect {first : Delivery} {rest : List Delivery} (hstage : scan.stage = .running)
      (hcollecting : scan.isCollecting = true)
      (hitems : scan.pool.results.items = first :: rest) :
      Stepped scan .collect
        { scan with
          pool := { scan.pool with results := { scan.pool.results with items := rest } }
          reported := scan.reported ++ [first]
          summary := scan.summary.add first.response.status }
  /-- No response will come any more. -/
  | finish (hstage : scan.stage = .running) (hcollecting : scan.isCollecting = true)
      (hitems : scan.pool.results.items = []) (hsenders : scan.pool.results.senders = 0) :
      Stepped scan .collect { scan with isCollecting := false }
  /-- Feed and collector have ended. -/
  | join (hstage : scan.stage = .running) (hfeed : scan.feed.isDone = true)
      (hcollecting : scan.isCollecting = false) :
      Stepped scan .join { scan with stage := Stage.ofWait scan.pool.barrier.wait }
  /-- The wait for the guards goes on. -/
  | wake {wait : Barrier.Wait} (hstage : scan.stage = .awaiting wait)
      (hnext : scan.pool.barrier.poll wait ≠ wait) :
      Stepped scan .wake { scan with stage := Stage.ofWait (scan.pool.barrier.poll wait) }

variable {scan after : Scan} {step : Step}

private theorem stepped_of_look? (hstage : scan.stage = .running)
    (h : scan.look? = some after) : Stepped scan .look after := by
  unfold look? at h
  split at h
  case h_1 hfeed =>
    cases h
    exact .exhaust hstage hfeed
  case h_2 hfeed =>
    split at h
    case isTrue htoken =>
      cases h
      exact .heed hstage hfeed htoken
    case isFalse htoken =>
      cases h
      exact .look hstage hfeed (by simpa using htoken)
  case h_3 => cases h

private theorem stepped_of_offer? (hstage : scan.stage = .running)
    (h : scan.offer? = some after) : Stepped scan .offer after := by
  unfold offer? WorkQueue.offer at h
  split at h
  case h_1 hfeed =>
    by_cases hconsumers : scan.pool.queue.consumers = 0
    · simp only [hconsumers, if_true, Option.some.injEq] at h
      subst h
      exact .refuse hstage hfeed hconsumers
    · by_cases hroom : scan.pool.queue.items.length < scan.pool.queue.capacity
      · simp only [hconsumers, if_false, hroom, if_true, Option.some.injEq] at h
        subst h
        exact .offer hstage hfeed hconsumers hroom
      · simp [hconsumers, hroom] at h
  case h_2 => cases h

private theorem stepped_of_giveUp? (hstage : scan.stage = .running)
    (h : scan.giveUp? = some after) : Stepped scan .giveUp after := by
  unfold giveUp? at h
  split at h
  case h_1 hfeed =>
    split at h
    case isTrue htoken =>
      cases h
      exact .giveUp hstage hfeed htoken
    case isFalse => cases h
  case h_2 => cases h

private theorem stepped_of_collect? (hstage : scan.stage = .running)
    (h : scan.collect? = some after) : Stepped scan .collect after := by
  unfold collect? Channel.receive at h
  split at h
  case isTrue hcollecting =>
    cases hitems : scan.pool.results.items with
    | nil =>
      by_cases hsenders : scan.pool.results.senders = 0
      · simp only [hitems, hsenders, if_true, Option.some.injEq] at h
        subst h
        exact .finish hstage hcollecting hitems hsenders
      · simp [hitems, hsenders] at h
    | cons first rest =>
      simp only [hitems, Option.some.injEq] at h
      subst h
      exact .collect hstage hcollecting hitems
  case isFalse => cases h

/-- A step that is possible is one of those listed. -/
theorem stepped_of_step? (h : scan.step? step = some after) : Stepped scan step after := by
  cases step with
  | spawn =>
    simp only [step?] at h
    split at h
    case h_1 hstage =>
      cases h
      exact .spawn hstage
    case h_2 => cases h
  | run =>
    simp only [step?] at h
    split at h
    case h_1 hstage =>
      cases h
      exact .run hstage
    case h_2 => cases h
  | worker w move =>
    obtain ⟨pool, hmove, rfl⟩ := Option.map_eq_some_iff.mp h
    exact .worker (Pool.moved_of_move? hmove)
  | cancel =>
    cases htoken : scan.pool.isCancelled <;> simp [step?, htoken] at h
    subst h
    exact .cancel htoken
  | look =>
    simp only [step?, Option.ite_none_right_eq_some] at h
    exact stepped_of_look? h.1 h.2
  | offer =>
    simp only [step?, Option.ite_none_right_eq_some] at h
    exact stepped_of_offer? h.1 h.2
  | giveUp =>
    simp only [step?, Option.ite_none_right_eq_some] at h
    exact stepped_of_giveUp? h.1 h.2
  | close =>
    simp only [step?, close?, Option.ite_none_right_eq_some] at h
    obtain ⟨hstage, h⟩ := h
    split at h
    case h_1 hfeed =>
      cases h
      exact .close hstage hfeed
    case h_2 => cases h
  | collect =>
    simp only [step?, Option.ite_none_right_eq_some] at h
    exact stepped_of_collect? h.1 h.2
  | join =>
    simp only [step?, Option.ite_none_right_eq_some, Option.some.injEq] at h
    obtain ⟨⟨hstage, hfeed, hcollecting⟩, rfl⟩ := h
    exact .join hstage hfeed (by simpa using hcollecting)
  | wake =>
    simp only [step?] at h
    split at h
    case h_1 hstage =>
      split at h
      case isTrue => cases h
      case isFalse hnext =>
        cases h
        exact .wake hstage hnext
    case h_2 => cases h

/-- Every step that is listed is possible. -/
theorem Stepped.step? (h : Stepped scan step after) : scan.step? step = some after := by
  cases h with
  | spawn hstage | run hstage => simp [Scan.step?, hstage]
  | worker hmoved => simp [Scan.step?, hmoved.move?]
  | cancel htoken => simp [Scan.step?, htoken]
  | exhaust hstage hfeed => simp [Scan.step?, look?, hstage, hfeed]
  | heed hstage hfeed htoken | look hstage hfeed htoken =>
    simp [Scan.step?, look?, hstage, hfeed, htoken]
  | offer hstage hfeed hconsumers hroom =>
    simp [Scan.step?, offer?, WorkQueue.offer, hstage, hfeed, hconsumers, hroom]
  | refuse hstage hfeed hconsumers =>
    simp [Scan.step?, offer?, WorkQueue.offer, hstage, hfeed, hconsumers]
  | giveUp hstage hfeed htoken => simp [Scan.step?, giveUp?, hstage, hfeed, htoken]
  | close hstage hfeed => simp [Scan.step?, close?, hstage, hfeed]
  | collect hstage hcollecting hitems =>
    simp [Scan.step?, collect?, Channel.receive, hstage, hcollecting, hitems]
  | finish hstage hcollecting hitems hsenders =>
    simp [Scan.step?, collect?, Channel.receive, hstage, hcollecting, hitems, hsenders]
  | join hstage hfeed hcollecting => simp [Scan.step?, hstage, hfeed, hcollecting]
  | wake hstage hnext => simp [Scan.step?, hstage, hnext]

/-- The list of steps is exact. -/
theorem step?_eq_some_iff : scan.step? step = some after ↔ Stepped scan step after :=
  ⟨stepped_of_step?, Stepped.step?⟩

end HeaderScan.Scan
