import HeaderScan.Proofs.Scan.Conduct

/-!
# How workers end

A worker of a scan ends by itself or by a panic. It ends by itself only when the token
is cancelled or the queue is closed and drained, and the feed leaves hosts behind only
when the token is cancelled or a panic has ended every worker. Ends are final, so all of
this is kept by every step.
-/

namespace HeaderScan

namespace Pool

variable {pool after : Pool} {v w : Nat} {move : Move}

/-- No host is in the queue and none will come. -/
def IsDrained (pool : Pool) : Prop := pool.queue.items = [] ∧ pool.queue.isOpen = false

/-- A worker that changes its phase has the end of the new phase. -/
theorem exit?_self {phase next : Phase} (hphase : pool.phases[w]? = some phase)
    (hphases : after.phases = pool.phases.set w next) : after.exit? w = next.exit? := by
  rw [exit?, hphases, getElem?_set_of_some hphase, if_pos rfl]
  rfl

/-- A worker whose new phase has the end of the old one leaves all ends as they are. -/
theorem exit?_eq_of_set {phase next : Phase} (hphase : pool.phases[w]? = some phase)
    (hphases : after.phases = pool.phases.set w next) (hexit : next.exit? = phase.exit?) :
    after.exit? w = pool.exit? w := by
  rw [exit?_self hphase hphases, hexit, exit?_of_phase hphase]

/-- An end stays as it is. A worker comes to its end by itself because of the token, the
queue or the channel, and by its panic. -/
theorem Moved.exit? (h : Moved pool w move after) (v : Nat) :
    after.exit? v = pool.exit? v ∨ pool.exit? v = none ∧
      (after.exit? v = some .returned ∧
          (pool.isCancelled = true ∨ pool.IsDrained ∨ pool.results.hasReceiver = false) ∨
        after.exit? v = some .panicked ∧ move = .panic ∧ v = w) := by
  by_cases hv : v = w
  case neg =>
    left
    have hhistory := h.history_of_ne (Ne.symm hv)
    exact congrArg (fun history => history.phase?.bind Phase.exit?) hhistory
  subst hv
  cases h with
  | listen hphase | take hphase | call hphase | giveUp hphase | abandon hphase
  | answer _ hphase =>
    exact .inl (exit?_eq_of_set hphase (phases_setPhase pool v _) rfl)
  | send hphase => exact .inl (exit?_eq_of_set hphase (phases_deliver pool v _ _) rfl)
  | @letGo _ share hphase =>
    cases share <;> exact .inl (exit?_eq_of_set hphase (phases_setPhase pool v _) rfl)
  | retire hphase htoken | heed hphase htoken =>
    have hexit := exit?_self hphase (phases_setPhase pool v (.leaving .returned .consumer))
    exact .inr ⟨exit?_of_phase hphase, .inl ⟨hexit, .inl htoken⟩⟩
  | finish hphase hitems hclosed =>
    have hexit := exit?_self hphase (phases_setPhase pool v (.leaving .returned .consumer))
    exact .inr ⟨exit?_of_phase hphase, .inl ⟨hexit, .inr (.inl ⟨hitems, hclosed⟩)⟩⟩
  | refuse hphase hreceiver =>
    refine .inr ⟨exit?_of_phase hphase, .inl ⟨?_, .inr (.inr hreceiver)⟩⟩
    exact exit?_self hphase (phases_discard pool v _ _)
  | panic hphase =>
    have hexit := exit?_self hphase (phases_setPhase pool v (.leaving .panicked .consumer))
    exact .inr ⟨exit?_of_phase hphase, .inr ⟨hexit, rfl, rfl⟩⟩

/-- A new worker has not come to its end. -/
theorem exit?_spawn (pool : Pool) (v : Nat) : pool.spawn.exit? v = pool.exit? v := by
  rcases history_spawn pool v with heq | ⟨hphase, heq⟩
  · exact congrArg (fun history => history.phase?.bind Phase.exit?) heq
  · have hnew := congrArg History.phase? heq
    simp only [history] at hphase hnew
    simp only [exit?, hphase, hnew]
    rfl

/-- A queue that is drained stays so when workers move. -/
theorem Moved.isDrained (h : Moved pool w move after) (hdrained : pool.IsDrained) :
    after.IsDrained := by
  refine ⟨?_, h.bounds.2.1.trans hdrained.2⟩
  cases h with
  | take _ hitems => cases hitems.symm.trans hdrained.1
  | @letGo _ share => cases share <;> exact hdrained.1
  | _ => exact hdrained.1

end Pool

namespace Feed

/-- The feed offers no host any more. -/
def isOver : Feed → Bool
  | ending _ | done _ => true
  | _ => false

/-- A feed that has closed the queue offers no host any more. -/
theorem isOver_of_isDone {feed : Feed} (h : feed.isDone = true) : feed.isOver = true := by
  cases feed <;> first | rfl | cases h

end Feed

namespace Scan

variable {config : ScanConfig} {scan after : Scan} {step : Step}

/-- How the workers of a scan end, and what that says about the queue and the feed. -/
structure Ended (config : ScanConfig) (scan : Scan) : Prop where
  /-- A scan drops none of its workers. -/
  not_aborted : ∀ w, scan.pool.exit? w ≠ some .aborted
  /-- Without a cancellation a worker stops by itself when the queue is drained. -/
  drained : scan.pool.isCancelled = false → ∀ w, scan.pool.exit? w = some .returned →
    scan.pool.IsDrained
  /-- The feed leaves hosts behind because of the cancellation, or because a panic has
  ended every worker. -/
  stopped : scan.feed.isOver = true → scan.feed.remaining ≠ [] →
    scan.pool.isCancelled = true ∨
      ∀ w, w < config.workers → scan.pool.exit? w = some .panicked

/-- An end stays as it is. A worker of a scan comes to its end by itself because of the
token or the queue, and by its panic. -/
theorem Stepped.exit? (h : Stepped scan step after)
    (hreceiver : scan.pool.results.hasReceiver = true) (v : Nat) :
    after.pool.exit? v = scan.pool.exit? v ∨ scan.pool.exit? v = none ∧
      (after.pool.exit? v = some .returned ∧
          (scan.pool.isCancelled = true ∨ scan.pool.IsDrained) ∨
        after.pool.exit? v = some .panicked ∧ step = .worker v .panic) := by
  cases h with
  | spawn => exact .inl (Pool.exit?_spawn _ v)
  | worker hmoved =>
    rcases hmoved.exit? v with heq | ⟨hnone, ⟨hexit, hcause⟩ | ⟨hexit, rfl, rfl⟩⟩
    · exact .inl heq
    · refine .inr ⟨hnone, .inl ⟨hexit, ?_⟩⟩
      rcases hcause with htoken | hdrained | hgone
      · exact .inl htoken
      · exact .inr hdrained
      · cases hgone.symm.trans hreceiver
    · exact .inr ⟨hnone, .inr ⟨hexit, rfl⟩⟩
  | run | cancel | exhaust | heed | look | offer | refuse | giveUp | close | collect | finish
  | join | wake =>
    exact .inl rfl

/-- Ends are final. -/
theorem Stepped.exit?_of_some (h : Stepped scan step after)
    (hreceiver : scan.pool.results.hasReceiver = true) {v : Nat} {exit : Exit}
    (hexit : scan.pool.exit? v = some exit) : after.pool.exit? v = some exit := by
  rcases h.exit? hreceiver v with heq | ⟨hnone, -⟩
  · rw [heq, hexit]
  · cases hnone.symm.trans hexit

/-- A token that is cancelled stays so. -/
theorem Stepped.isCancelled (h : Stepped scan step after)
    (htoken : scan.pool.isCancelled = true) : after.pool.isCancelled = true := by
  rcases h.pool with heq | ⟨event, hevent⟩
  · rw [heq, htoken]
  · rcases Pool.isCancelled_of_happen? hevent with heq | heq
    · rw [heq, htoken]
    · rw [heq]
      rfl

/-- A queue that is drained stays so: the feed that closed it offers nothing more. -/
theorem Stepped.isDrained (h : Stepped scan step after) (hstaged : scan.Staged config)
    (hdrained : scan.pool.IsDrained) : after.pool.IsDrained := by
  have hdone := hstaged.isOpen.symm.trans hdrained.2
  cases h with
  | worker hmoved => exact hmoved.isDrained hdrained
  | offer _ hfeed =>
    rw [hfeed] at hdone
    cases hdone
  | close => exact ⟨hdrained.1, rfl⟩
  | spawn | run | cancel | exhaust | heed | look | refuse | giveUp | collect | finish | join
  | wake =>
    exact hdrained

/-- At the start no worker has come to its end. -/
theorem ended_start (config : ScanConfig) : (Scan.start config).Ended config := by
  constructor
  · intro w hexit
    cases hexit
  · intro _ w hexit
    cases hexit
  · intro hover
    cases hover

/-- A worker that stops by itself has seen the queue drained, and drained it stays. -/
theorem Ended.drained_stepped (h : scan.Ended config) (hprovided : scan.Provided config)
    (hstaged : scan.Staged config) (hstep : Stepped scan step after)
    (htoken : after.pool.isCancelled = false) (w : Nat)
    (hexit : after.pool.exit? w = some .returned) : after.pool.IsDrained := by
  have hbefore : scan.pool.isCancelled = false := by
    by_contra hcancelled
    have hafter := hstep.isCancelled (by simpa using hcancelled)
    cases htoken.symm.trans hafter
  rcases hstep.exit? hprovided.hasReceiver w with
    heq | ⟨-, ⟨-, hcancelled | hdrained⟩ | ⟨hpanicked, -⟩⟩
  · exact hstep.isDrained hstaged (h.drained hbefore w (heq ▸ hexit))
  · cases hbefore.symm.trans hcancelled
  · exact hstep.isDrained hstaged hdrained
  · cases hpanicked.symm.trans hexit

/-- When nobody is left to take a host that is offered, and the token is not cancelled,
every worker has panicked. -/
theorem Ended.all_panicked (h : scan.Ended config) (hprovided : scan.Provided config)
    (hstaged : scan.Staged config) (hstage : scan.stage = .running)
    (hopen : scan.feed.isDone = false) (hconsumers : scan.pool.queue.consumers = 0)
    (htoken : scan.pool.isCancelled = false) {w : Nat} (hw : w < config.workers) :
    scan.pool.exit? w = some .panicked := by
  obtain ⟨phase, hphase⟩ := hprovided.exists_phase (by rw [hstage]; rfl) hw
  have hnone := hprovided.shared.not_hasConsumer hconsumers hphase
  obtain ⟨exit, hexit⟩ := Phase.exists_exit?_of_hasConsumer hnone
  have hpool := (Pool.exit?_of_phase hphase).trans hexit
  cases exit with
  | panicked => exact hpool
  | aborted => exact absurd hpool (h.not_aborted w)
  | returned =>
    have hclosed := (h.drained htoken w hpool).2
    rw [hstaged.isOpen, hopen] at hclosed
    cases hclosed

/-- The feed stops early for no other reason. -/
theorem Ended.stopped_stepped (h : scan.Ended config) (hprovided : scan.Provided config)
    (hstaged : scan.Staged config) (hstep : Stepped scan step after)
    (hover : after.feed.isOver = true) (hremaining : after.feed.remaining ≠ []) :
    after.pool.isCancelled = true ∨
      ∀ w, w < config.workers → after.pool.exit? w = some .panicked := by
  -- What held before goes on to hold, since a cancellation and an end are final.
  have hkeep (hbefore : scan.pool.isCancelled = true ∨
      ∀ w, w < config.workers → scan.pool.exit? w = some .panicked) :
      after.pool.isCancelled = true ∨
        ∀ w, w < config.workers → after.pool.exit? w = some .panicked :=
    hbefore.imp hstep.isCancelled fun hall w hw =>
      hstep.exit?_of_some hprovided.hasReceiver (hall w hw)
  cases hstep with
  | spawn | run | worker | cancel | collect | finish | join | wake =>
    exact hkeep (h.stopped hover hremaining)
  | exhaust => exact absurd rfl hremaining
  | heed _ _ htoken | giveUp _ _ htoken => exact .inl htoken
  | look | offer => cases hover
  | refuse hstage hfeed hconsumers =>
    cases htoken : scan.pool.isCancelled with
    | true => exact .inl rfl
    | false =>
      refine .inr fun w hw => ?_
      exact h.all_panicked hprovided hstaged hstage (by rw [hfeed]; rfl) hconsumers htoken hw
  | close _ hfeed =>
    exact hkeep (h.stopped (by rw [hfeed]; rfl) (by rw [hfeed]; exact hremaining))

/-- Every step keeps what is known of the ends. -/
theorem Ended.stepped (h : scan.Ended config) (hprovided : scan.Provided config)
    (hstaged : scan.Staged config) (hstep : Stepped scan step after) : after.Ended config where
  not_aborted w hexit := by
    rcases hstep.exit? hprovided.hasReceiver w with
      heq | ⟨-, ⟨hreturned, -⟩ | ⟨hpanicked, -⟩⟩
    · exact h.not_aborted w (heq ▸ hexit)
    · cases hreturned.symm.trans hexit
    · cases hpanicked.symm.trans hexit
  drained htoken := h.drained_stepped hprovided hstaged hstep htoken
  stopped := h.stopped_stepped hprovided hstaged hstep

theorem Reachable.ended (h : Reachable config scan) : scan.Ended config :=
  h.induction (motive := fun scan => scan.Ended config) (ended_start config)
    fun hbefore hscan hstep => hscan.stepped hbefore.provided hbefore.staged hstep

/-- In a run too, ends are final. -/
theorem follow?_exit? {steps : List Step} (hscan : Reachable config scan)
    (h : scan.follow? steps = some after) {w : Nat} {exit : Exit}
    (hexit : scan.pool.exit? w = some exit) : after.pool.exit? w = some exit := by
  induction steps generalizing scan with
  | nil =>
    cases h
    exact hexit
  | cons step steps ih =>
    obtain ⟨next, hnext, hlater⟩ := follow?_cons.mp h
    exact ih (.step _ hscan hnext.step?) hlater
      (hnext.exit?_of_some hscan.provided.hasReceiver hexit)

/-- A worker that has come to its end and did not panic has stopped by itself. -/
theorem Ended.eq_returned (h : scan.Ended config) {w : Nat} {exit : Exit}
    (hexit : scan.pool.exit? w = some exit) (hpanic : scan.pool.exit? w ≠ some .panicked) :
    exit = .returned := by
  cases exit with
  | returned => rfl
  | panicked => exact absurd hexit hpanic
  | aborted => exact absurd hexit (h.not_aborted w)

/-- A feed that has closed the queue has put in every host, unless the token is cancelled
or every worker has panicked. -/
theorem Ended.remaining_eq_nil (h : scan.Ended config) (hdone : scan.feed.isDone = true)
    (htoken : scan.pool.isCancelled = false) {w : Nat} (hw : w < config.workers)
    (hpanic : scan.pool.exit? w ≠ some .panicked) : scan.feed.remaining = [] := by
  by_contra hrest
  rcases h.stopped (Feed.isOver_of_isDone hdone) hrest with hcancelled | hall
  · cases htoken.symm.trans hcancelled
  · exact hpanic (hall w hw)

/-! ## Runs without panics and without a cancellation -/

/-- In a run without panics no worker ends by one. -/
theorem follow?_not_panicked {steps : List Step} (hscan : Reachable config scan)
    (h : scan.follow? steps = some after) (hpanic : ∀ w, .worker w .panic ∉ steps) {w : Nat}
    (hw : scan.pool.exit? w ≠ some .panicked) : after.pool.exit? w ≠ some .panicked := by
  induction steps generalizing scan with
  | nil =>
    cases h
    exact hw
  | cons step steps ih =>
    obtain ⟨next, hnext, hlater⟩ := follow?_cons.mp h
    refine ih (.step _ hscan hnext.step?) hlater (fun v hv => hpanic v (.tail _ hv)) ?_
    intro hexit
    rcases hnext.exit? hscan.provided.hasReceiver w with
      heq | ⟨-, ⟨hreturned, -⟩ | ⟨-, rfl⟩⟩
    · exact hw (heq ▸ hexit)
    · cases hreturned.symm.trans hexit
    · exact hpanic w (.head _)

/-- In a run without a cancellation the token stays as it is. -/
theorem follow?_not_cancelled {steps : List Step} (h : scan.follow? steps = some after)
    (hcancel : .cancel ∉ steps) : after.pool.isCancelled = scan.pool.isCancelled := by
  induction steps generalizing scan with
  | nil =>
    cases h
    rfl
  | cons step steps ih =>
    obtain ⟨next, hnext, hlater⟩ := follow?_cons.mp h
    rw [ih hlater fun hmem => hcancel (.tail _ hmem)]
    cases hnext with
    | cancel => exact absurd (.head _) hcancel
    | worker hmoved => exact hmoved.flags.1
    | spawn | run | exhaust | heed | look | offer | refuse | giveUp | close | collect | finish
    | join | wake =>
      rfl

end Scan

end HeaderScan
