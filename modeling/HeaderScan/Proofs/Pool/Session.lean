import HeaderScan.Pool.Session
import HeaderScan.Proofs.Pool.Events
import HeaderScan.Proofs.Pool.Polling
import HeaderScan.Proofs.Queue.Settling
import Mathlib.Data.List.Induction

/-!
# Sessions are runs of the pool

Whatever a session is told, its commands and its polling are events that can happen to a
pool, so what holds of every reachable pool holds in every session. Polling uses up the
moves that are left and the enqueues that have not finished, and these bound its rounds: it
ends only when every enqueue has to wait and a worker can move only by the end of its probe.
-/

namespace HeaderScan.Pool

variable {pool : Pool} {w : Nat}

/-- A worker is in the phase to which it was set. -/
theorem getElem?_phases_setPhase {old : Phase} (hold : pool.phases[w]? = some old)
    (new : Phase) : (pool.setPhase w new).phases[w]? = some new := by
  rw [phases_setPhase, getElem?_set_of_some hold, if_pos rfl]

/-- A worker whose work is over lets go of all its shares when it is dismissed. -/
theorem follow?_dismiss {exit : Exit} (h : pool.phases[w]? = some (.leaving exit .consumer)) :
    pool.follow? (List.replicate 3 (.move w .letGo)) = some (pool.dismiss w) := by
  let sending := pool.letGo w exit .consumer
  let guarded := sending.letGo w exit .sender
  have hsending : sending.phases[w]? = some (.leaving exit .sender) :=
    getElem?_phases_setPhase h (.leaving exit .sender)
  have hguarded : guarded.phases[w]? = some (.leaving exit .guard) :=
    getElem?_phases_setPhase hsending (.leaving exit .guard)
  have hconsumer : pool.move? w .letGo = some sending := (Moved.letGo h).move?
  have hsender : sending.move? w .letGo = some guarded := (Moved.letGo hsending).move?
  have hguard : guarded.move? w .letGo = some (guarded.letGo w exit .guard) :=
    (Moved.letGo hguarded).move?
  simp [follow?, happen?, dismiss, List.replicate, hconsumer, hsender, hguard]

/-- Served enqueues are events: the hosts that they put in are offered, in order. -/
theorem follow?_offers {queue next : WorkQueue Host} {endings : List WorkQueue.Ending}
    (h : WorkQueue.Served queue endings next)
    (henqueues : ∀ ending ∈ endings, ending.operation.request.isEnqueue = true)
    (hqueue : pool.queue = queue) :
    pool.follow? ((WorkQueue.hosts (WorkQueue.accepted endings)).map .offer) =
      some { pool with queue := next } := by
  induction h generalizing pool with
  | nil =>
    subst hqueue
    rfl
  | @cons queue met next ending later htried _ ih =>
    obtain ⟨hfirst, hlater⟩ := List.forall_mem_cons.mp henqueues
    obtain ⟨⟨id, request⟩, outcome⟩ := ending
    subst hqueue
    cases htried with
    | @accept host hconsumers hroom =>
      have hoffer : pool.happen? (.offer host) =
          some { pool with queue := { pool.queue with items := pool.queue.items ++ [host] } } := by
        simp [happen?, WorkQueue.offer, hconsumers, hroom]
      exact Option.bind_eq_some_iff.mpr ⟨_, hoffer, ih hlater rfl⟩
    | refuse => exact ih hlater rfl
    | take | finish => cases hfirst

namespace Session

variable {session middle after : Session} {w : Nat}

/-- Only enqueues are under way. -/
def Producing (session : Session) : Prop :=
  ∀ operation ∈ session.pending, operation.request.isEnqueue = true

/-- A bound on what polling can still do: a host that is put in can bring a listening worker
five moves back and costs one to take, and each enqueue finishes once. -/
def effort (session : Session) : Nat := session.pool.movesLeft + 7 * session.pending.length

/-- Nothing is left for polling to do. -/
structure Settled (session : Session) : Prop where
  /-- Every enqueue has to wait. -/
  stuck : ∀ operation ∈ session.pending, WorkQueue.Stuck session.pool.queue operation
  /-- So has every worker. -/
  workers : ∀ w, session.pool.advance? (session.result? w) w = none

/-- In a settled session a worker can move only by the end of its probe. -/
theorem Settled.ends (h : session.Settled) {move : Move} {pool : Pool}
    (hmoved : session.pool.Moved w move pool) :
    (∃ status, move = .answer status) ∨ move = .panic := by
  by_contra hinner
  obtain ⟨hanswer, hpanic⟩ := not_or.mp hinner
  exact hmoved.advance?_ne_none_of_ne (not_exists.mp hanswer) hpanic (h.workers w)

/-- In a settled session a probe in flight hangs, and it is not resolved. -/
theorem Settled.hangs (h : session.Settled) {host : Host}
    (hphase : session.pool.phases[w]? = some (.probing host)) :
    session.script host = .hang ∧ session.resolved.lookup w = none := by
  obtain ⟨_, hworker⟩ := exists_worker hphase
  cases hresult : session.result? w with
  | some result =>
    have hwaits := h.workers w
    rw [hresult] at hwaits
    exact absurd hwaits (advance?_ne_none_of_result result hphase)
  | none =>
    simp only [result?, hworker, Option.bind_some, Phase.inFlight?] at hresult
    cases hscript : session.script host with
    | immediate => simp [hscript] at hresult
    | hang => exact ⟨rfl, by simpa [hscript] using hresult⟩

/-! ## Polling -/

/-- What polling has made of a session, and whether it has done anything. -/
structure Polled (session after : Session) (busy : Bool) : Prop where
  /-- Its pool has come about by events. -/
  events : ∃ events, session.pool.follow? events = some after.pool
  /-- Of the enqueues some have finished. -/
  pending : after.pending.Sublist session.pending
  /-- If anything was done, less is left to do. -/
  effort : after.effort + busy.toNat ≤ session.effort
  /-- Otherwise nothing has changed. -/
  idle : busy = false → after = session

/-- Nothing was done. -/
theorem Polled.nothing (session : Session) : Polled session session false :=
  ⟨⟨[], rfl⟩, .refl _, Nat.le_refl _, fun _ => rfl⟩

/-- One thing is done after the other. -/
theorem Polled.trans {first second : Bool} (hfirst : Polled session middle first)
    (hsecond : Polled middle after second) : Polled session after (first || second) where
  events := by
    obtain ⟨earlier, hearlier⟩ := hfirst.events
    obtain ⟨later, hlater⟩ := hsecond.events
    exact ⟨earlier ++ later, by rw [follow?_append, hearlier, Option.bind_some, hlater]⟩
  pending := hsecond.pending.trans hfirst.pending
  effort := by
    have hless := hfirst.effort
    have hless' := hsecond.effort
    have hone : (first || second).toNat ≤ first.toNat + second.toNat := by
      cases first <;> cases second <;> decide
    omega
  idle hidle := by
    obtain ⟨hnone, hnone'⟩ := Bool.or_eq_false_iff.mp hidle
    rw [hsecond.idle hnone', hfirst.idle hnone]

/-- Polling starts no operation but those that are there. -/
theorem Polled.producing {busy : Bool} (h : Polled session after busy)
    (hproducing : session.Producing) : after.Producing :=
  fun operation hmem => hproducing operation (h.pending.subset hmem)

/-- The account of hanging probes touches nothing else. -/
theorem exists_noteHanging (session : Session) (w : Nat) :
    ∃ hanging resolved, session.noteHanging w = { session with hanging, resolved } := by
  unfold noteHanging
  split
  · exact ⟨_, _, rfl⟩
  · split
    · exact ⟨_, _, rfl⟩
    · split <;> exact ⟨_, _, rfl⟩

@[simp] theorem noteHanging_pool (session : Session) (w : Nat) :
    (session.noteHanging w).pool = session.pool := by
  obtain ⟨_, _, h⟩ := session.exists_noteHanging w
  rw [h]

@[simp] theorem noteHanging_pending (session : Session) (w : Nat) :
    (session.noteHanging w).pending = session.pending := by
  obtain ⟨_, _, h⟩ := session.exists_noteHanging w
  rw [h]

/-- A worker moves. -/
theorem polled_of_moved {move : Move} {pool : Pool} (h : session.pool.Moved w move pool) :
    Polled session (({ session with pool } : Session).noteHanging w) true where
  events := ⟨[.move w move], by simp [follow?, happen?, h.move?]⟩
  pending := by simp
  effort := by
    have hless := h.movesLeft_lt
    simp only [Session.effort, noteHanging_pool, noteHanging_pending, Bool.toNat_true]
    omega
  idle hidle := by cases hidle

/-- A worker moves as long as it can. -/
theorem polled_pollWorker (session : Session) (w moves : Nat) :
    Polled session (session.pollWorker w moves).1 (session.pollWorker w moves).2 := by
  induction moves generalizing session with
  | zero => exact .nothing session
  | succ moves ih =>
    cases hadvance : session.pool.advance? (session.result? w) w with
    | none => simpa only [pollWorker, hadvance] using .nothing session
    | some pool =>
      obtain ⟨move, hmoved⟩ := exists_moved_of_advance? hadvance
      simpa only [pollWorker, hadvance, Bool.true_or] using (polled_of_moved hmoved).trans (ih _)

/-- A worker that has not moved could not. -/
theorem advance?_eq_none_of_pollWorker {moves : Nat}
    (hidle : (session.pollWorker w (moves + 1)).2 = false) :
    session.pool.advance? (session.result? w) w = none := by
  cases hadvance : session.pool.advance? (session.result? w) w with
  | none => rfl
  | some pool =>
    rw [pollWorker, hadvance] at hidle
    cases hidle

/-- The first worker moves, then the others. -/
theorem pollWorkers_cons (session : Session) (w : Nat) (later : List Nat) :
    session.pollWorkers (w :: later) =
      let first := session.pollWorker w (session.pool.movesLeft + 1)
      let others := first.1.pollWorkers later
      (others.1, first.2 || others.2) := rfl

/-- The workers move one after the other. -/
theorem polled_pollWorkers (session : Session) (workers : List Nat) :
    Polled session (session.pollWorkers workers).1 (session.pollWorkers workers).2 := by
  induction workers generalizing session with
  | nil => exact .nothing session
  | cons w later ih =>
    rw [pollWorkers_cons]
    exact (polled_pollWorker session w _).trans (ih _)

/-- When no worker has moved none of them could. -/
theorem advance?_eq_none_of_pollWorkers {workers : List Nat}
    (hidle : (session.pollWorkers workers).2 = false) :
    ∀ w ∈ workers, session.pool.advance? (session.result? w) w = none := by
  induction workers with
  | nil => simp
  | cons w later ih =>
    rw [pollWorkers_cons] at hidle
    obtain ⟨hfirst, hothers⟩ := Bool.or_eq_false_iff.mp hidle
    rw [(polled_pollWorker session w _).idle hfirst] at hothers
    exact List.forall_mem_cons.mpr ⟨advance?_eq_none_of_pollWorker hfirst, ih hothers⟩

/-- When no enqueue has finished none of them could, and nothing has changed. -/
theorem pollEnqueues_of_idle (hidle : (!session.pollEnqueues.2.isEmpty) = false) :
    (∀ operation ∈ session.pending, WorkQueue.Stuck session.pool.queue operation) ∧
      session.pollEnqueues.1 = session := by
  have hnone : (WorkQueue.round session.pool.queue session.pending).completed = [] := by
    simpa [pollEnqueues] using hidle
  obtain ⟨hstuck, hround⟩ := WorkQueue.round_of_completed_eq_nil hnone
  exact ⟨hstuck, by rw [pollEnqueues, hround]⟩

/-- Every enqueue is tried once. -/
theorem polled_pollEnqueues (hproducing : session.Producing) :
    Polled session session.pollEnqueues.1 !session.pollEnqueues.2.isEmpty := by
  obtain ⟨endings, hround, hsub⟩ :=
    WorkQueue.exists_round session.pool.queue session.pending
  have henqueues (ending) (hmem : ending ∈ endings) :
      ending.operation.request.isEnqueue = true :=
    hproducing _ (hsub.subset (List.mem_map_of_mem hmem))
  have hgrown := hround.served.length_items_le
  have hlength := hround.perm.length_eq
  rw [List.length_append, List.length_map] at hlength
  have hcompleted : session.pollEnqueues.2 = endings.map WorkQueue.Ending.completion :=
    hround.completed
  have hbusy : (!session.pollEnqueues.2.isEmpty).toNat ≤ endings.length := by
    rw [hcompleted]
    cases endings <;> simp
  refine ⟨⟨_, follow?_offers hround.served henqueues rfl⟩, hround.waiting, ?_,
    fun hidle => (pollEnqueues_of_idle hidle).2⟩
  -- An enqueue that has finished pays for the moves that its host can bring about.
  simp only [Session.effort, pollEnqueues, movesLeft_eq, phases_mk, map_phase_workers] at hbusy ⊢
  omega

/-! ## Settling -/

/-- Every enqueue and every worker is tried once. -/
def pollAll (session : Session) : Session × Bool :=
  let first := session.pollEnqueues
  let second := first.1.pollWorkers (List.range first.1.pool.workers.length)
  (second.1, !first.2.isEmpty || second.2)

/-- A session settles by trying everything again and again. -/
theorem settle_succ (session : Session) (rounds : Nat) : (session.settle (rounds + 1)).1 =
    if session.pollAll.2 then (session.pollAll.1.settle rounds).1 else session.pollAll.1 := by
  rw [pollAll, Bool.or_comm]
  exact apply_ite Prod.fst ..

/-- What is tried once is polled. -/
theorem polled_pollAll (hproducing : session.Producing) :
    Polled session session.pollAll.1 session.pollAll.2 :=
  (polled_pollEnqueues hproducing).trans (polled_pollWorkers _ _)

/-- When all was tried in vain the session is settled. -/
theorem settled_of_pollAll (hidle : session.pollAll.2 = false) : session.Settled := by
  obtain ⟨hfirst, hsecond⟩ := Bool.or_eq_false_iff.mp hidle
  obtain ⟨hstuck, hsame⟩ := pollEnqueues_of_idle hfirst
  rw [hsame] at hsecond
  refine ⟨hstuck, fun w => ?_⟩
  by_cases hw : w < session.pool.workers.length
  · exact advance?_eq_none_of_pollWorkers hsecond w (List.mem_range.mpr hw)
  · simp [advance?, List.getElem?_eq_none (Nat.le_of_not_lt hw)]

/-- Within more rounds than are left to do the session settles. -/
theorem settle_spec {rounds : Nat} (hproducing : session.Producing)
    (hrounds : session.effort < rounds) :
    (∃ busy, Polled session (session.settle rounds).1 busy) ∧
      (session.settle rounds).1.Settled := by
  induction rounds generalizing session with
  | zero => omega
  | succ rounds ih =>
    have hpolled := polled_pollAll hproducing
    rw [settle_succ]
    cases hbusy : session.pollAll.2 with
    | false =>
      rw [if_neg (by simp), hpolled.idle hbusy]
      exact ⟨⟨_, .nothing session⟩, settled_of_pollAll hbusy⟩
    | true =>
      have hless := hpolled.effort
      rw [hbusy, Bool.toNat_true] at hless
      obtain ⟨⟨_, hlater⟩, hsettled⟩ := ih (hpolled.producing hproducing) (by omega)
      rw [if_pos rfl]
      exact ⟨⟨_, hpolled.trans hlater⟩, hsettled⟩

/-! ## Commands -/

/-- What a command has made of a session before any polling. -/
structure Applied (session after : Session) : Prop where
  /-- Its pool has come about by events. -/
  events : ∃ events, session.pool.follow? events = some after.pool
  /-- No operation was started but an enqueue. -/
  producing : session.Producing → after.Producing

/-- A command that touches the pool alone. -/
theorem applied_of_pool (event : Event) (hevent : session.pool.happen? event = some after.pool)
    (hpending : after.pending = session.pending) : Applied session after where
  events := ⟨[event], by rw [follow?, hevent]; rfl⟩
  producing hproducing := by rwa [Producing, hpending]

/-- A command that does nothing to the pool or the enqueues. -/
theorem applied_of_eq (hpool : after.pool = session.pool)
    (hpending : after.pending = session.pending) : Applied session after where
  events := ⟨[], congrArg some hpool.symm⟩
  producing hproducing := by rwa [Producing, hpending]

/-- A command that starts an enqueue. -/
theorem applied_enqueue (session : Session) (id : Nat) (host : Host) :
    Applied session { session with pending := session.pending ++ [⟨id, .enqueue host⟩] } where
  events := ⟨[], rfl⟩
  producing hproducing :=
    List.forall_mem_append.mpr ⟨hproducing, by simp [WorkQueue.Request.isEnqueue]⟩

/-- The worker that is dropped lets go of its shares at once. -/
theorem applied_abort {pool : Pool} (habort : session.pool.abort? w = some pool) :
    Applied session (({ session with pool := pool.dismiss w } : Session).noteHanging w) where
  events := by
    obtain ⟨phase, hphase, -, hpool⟩ := happen?_abort habort
    have hleaving : pool.phases[w]? = some (.leaving .aborted .consumer) := by
      rw [hpool]
      exact getElem?_phases_setPhase hphase (.leaving .aborted .consumer)
    refine ⟨.abort w :: List.replicate 3 (.move w .letGo), ?_⟩
    rw [follow?, happen?, habort, Option.bind_some, noteHanging_pool]
    exact follow?_dismiss hleaving
  producing hproducing := by rwa [Producing, noteHanging_pending]

/-- Every command acts in one of these ways. -/
theorem applied_apply (session : Session) (command : Command) :
    Applied session (session.apply command).1 := by
  cases command with
  | spawn =>
    simp only [apply]
    split
    case isTrue => exact applied_of_pool .spawn rfl rfl
    case isFalse => exact applied_of_eq rfl rfl
  | release =>
    simp only [apply]
    split
    case isTrue => exact applied_of_pool .release rfl rfl
    case isFalse => exact applied_of_eq rfl rfl
  | enqueue host =>
    simp only [apply]
    split
    case isTrue => exact applied_enqueue session _ host
    case isFalse => exact applied_of_eq rfl rfl
  | close =>
    simp only [apply]
    split
    case isTrue => exact applied_of_eq rfl rfl
    case isFalse =>
      split
      case isTrue => exact applied_of_eq rfl rfl
      case isFalse => exact applied_of_pool .close rfl rfl
  | cancel => exact applied_of_pool .cancel rfl rfl
  | resolve host status =>
    simp only [apply, resolve]
    split <;> exact applied_of_eq rfl rfl
  | abort w =>
    simp only [apply]
    split
    case h_1 habort => exact applied_abort habort
    case h_2 => exact applied_of_eq rfl rfl
  | receive =>
    simp only [apply, receive]
    split
    case isTrue => exact applied_of_eq rfl rfl
    case isFalse =>
      split
      case h_1 hreceive =>
        exact applied_of_pool .receive (by rw [happen?, hreceive]) rfl
      case h_2 | h_3 => exact applied_of_eq rfl rfl
  | dropReceiver => exact applied_of_pool .dropReceiver rfl rfl

/-- A command and the polling after it are events of the pool, and leave nothing to poll. -/
theorem step_spec (hproducing : session.Producing) (command : Command) :
    (∃ events, session.pool.follow? events = some (session.step command).1.pool) ∧
      (session.step command).1.Producing ∧ (session.step command).1.Settled := by
  have happlied := session.applied_apply command
  have hstarted := happlied.producing hproducing
  obtain ⟨⟨_, hpolled⟩, hsettled⟩ := settle_spec hstarted (Nat.lt_succ_self _)
  obtain ⟨earlier, hearlier⟩ := happlied.events
  obtain ⟨later, hlater⟩ := hpolled.events
  refine ⟨⟨earlier ++ later, ?_⟩, hpolled.producing hstarted, hsettled.stuck, hsettled.workers⟩
  rw [follow?_append, hearlier, Option.bind_some, hlater]
  rfl

/-- A session that was told these commands, one after the other. -/
def ofCommands (capacity slots : Nat) (script : Host → ProbeScript) (commands : List Command) :
    Session :=
  commands.foldl (fun session command => (session.step command).1) (start capacity slots script)

/-- At the start there is nothing to poll. -/
theorem settled_start (capacity slots : Nat) (script : Host → ProbeScript) :
    (start capacity slots script).Settled :=
  ⟨by simp [start], fun w => by simp [advance?, start, Pool.new]⟩

/-- One more command is one more step. -/
theorem ofCommands_concat (capacity slots : Nat) (script : Host → ProbeScript)
    (commands : List Command) (command : Command) :
    ofCommands capacity slots script (commands ++ [command]) =
      ((ofCommands capacity slots script commands).step command).1 := by
  simp [ofCommands]

/-- After every command the pool is one that can come about, and the session is settled. -/
theorem reachable_ofCommands (capacity slots : Nat) (script : Host → ProbeScript)
    (commands : List Command) :
    let session := ofCommands capacity slots script commands
    Reachable capacity slots session.pool ∧ session.Producing ∧ session.Settled := by
  induction commands using List.reverseRecOn with
  | nil => exact ⟨.new, by simp [ofCommands, start, Producing], settled_start ..⟩
  | append_singleton commands command ih =>
    obtain ⟨hpool, hproducing, -⟩ := ih
    rw [ofCommands_concat]
    obtain ⟨⟨_, hevents⟩, hsettled⟩ := step_spec hproducing command
    exact ⟨hpool.follow? hevents, hsettled⟩

/-- Whatever a session is told, after each command its pool is one that can come about by
events. Every enqueue that has not finished waits for room in a full queue, every probe in
flight hangs and is not resolved, and no worker can move but by the end of its probe. -/
theorem ofCommands_waits (capacity slots : Nat) (script : Host → ProbeScript)
    (commands : List Command) :
    let session := ofCommands capacity slots script commands
    Reachable capacity slots session.pool ∧
      (∀ operation ∈ session.pending, session.pool.queue.consumers ≠ 0 ∧
        session.pool.queue.capacity ≤ session.pool.queue.items.length) ∧
      (∀ w host, session.pool.phases[w]? = some (.probing host) →
        session.script host = .hang ∧ session.resolved.lookup w = none) ∧
      ∀ w move after, session.pool.Moved w move after →
        (∃ status, move = .answer status) ∨ move = .panic := by
  intro session
  obtain ⟨hpool, hproducing, hsettled⟩ := reachable_ofCommands capacity slots script commands
  refine ⟨hpool, fun operation hmem => ?_, fun w host => hsettled.hangs,
    fun w move after => hsettled.ends⟩
  have hstuck := hsettled.stuck operation hmem
  have henqueue := hproducing operation hmem
  cases hrequest : operation.request with
  | enqueue host =>
    rw [WorkQueue.Stuck, hrequest] at hstuck
    exact WorkQueue.attempt_enqueue_eq_none_iff.mp hstuck
  | receive =>
    rw [hrequest] at henqueue
    cases henqueue

end Session

end HeaderScan.Pool
