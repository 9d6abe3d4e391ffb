import HeaderScan.Proofs.Queue.Settling

/-!
# What a command can do

`Applied` lists every way in which a command can change a session before any try. What
holds of a queue with its operations is kept by every command and by the tries that follow
it, and after them every operation that is left is stuck.
-/

namespace HeaderScan.WorkQueue

/-- The operation that a command starts. -/
def Command.request? : Command → Option Request
  | .enqueue host => some (.enqueue host)
  | .receive consumer => some (.receive consumer)
  | _ => none

/-- The command takes this operation back. -/
def Command.withdraws (command : Command) (operation : Pending) : Bool :=
  match command with
  | .cancel id => operation.id == id
  | .drop consumer => operation.request == .receive consumer
  | _ => false

/-- The command was not carried out. -/
def Reply.isRefusal : Reply → Bool
  | .busy | .noProducer | .noConsumer => true
  | .done | .consumer _ => false

/-- The operations that are started by a command with this number and answer. -/
def Command.started (command : Command) (id : Nat) (reply : Reply) : List Pending :=
  if reply.isRefusal then [] else (command.request?.map (Pending.mk id)).toList

/-- Those of the unfinished operations that a command with this answer takes back. -/
def Command.withdrawn (command : Command) (pending : List Pending) (reply : Reply) :
    List Pending :=
  if reply.isRefusal then [] else pending.filter command.withdraws

namespace Session

/-- What a command does to a session before any try, and its answer. -/
inductive Applied (session : Session) : Command → Session → Reply → Prop where
  /-- An operation is started. -/
  | start {command : Command} {request : Request} (hrequest : command.request? = some request)
      (hproducer : request.isEnqueue = true → session.hasProducer = true)
      (hwithdraws : ∀ operation, command.withdraws operation = false) :
      Applied session command (session.begin request) .done
  /-- One more consumer shares the queue. -/
  | clone {consumer : Nat} :
      Applied session (.clone consumer)
        { session with
          queue := session.queue.addConsumer
          consumers := session.consumers ++ [true] } (.consumer session.consumers.length)
  /-- A consumer goes, with its receives. -/
  | drop {consumer : Nat} (hconsumer : session.hasConsumer consumer = true) :
      Applied session (.drop consumer)
        { session with
          queue := session.queue.dropConsumer
          consumers := session.consumers.set consumer false
          pending := session.pending.filter (·.request != .receive consumer) } .done
  /-- An operation is taken back. -/
  | cancel {id : Nat} :
      Applied session (.cancel id)
        { session with pending := session.pending.filter (·.id != id) } .done
  /-- The producer goes, with no enqueue left. -/
  | leave {command : Command} (hrequest : command.request? = none)
      (hwithdraws : ∀ operation, command.withdraws operation = false)
      (hidle : ∀ operation ∈ session.pending, operation.request.isEnqueue = false) :
      Applied session command
        { session with queue := session.queue.close, hasProducer := false } .done
  /-- The command is not carried out. -/
  | decline {command : Command} {reply : Reply} (hreply : reply.isRefusal = true) :
      Applied session command session reply

variable {session next : Session} {command : Command} {reply : Reply} {capacity : Nat}
  {endings : List Ending}

/-- The producer leaves only when no enqueue waits. -/
theorem not_isEnqueueing (h : session.isEnqueueing = false) :
    ∀ operation ∈ session.pending, operation.request.isEnqueue = false := by
  intro operation hmem
  have hnot := List.any_eq_false.mp h operation hmem
  cases hrequest : operation.request with
  | enqueue => simp [hrequest] at hnot
  | receive => rfl

/-- The end of the production is the same for both commands that ask for it. -/
private theorem applied_endProduction (hrequest : command.request? = none)
    (hwithdraws : ∀ operation, command.withdraws operation = false) :
    session.Applied command session.endProduction.1 session.endProduction.2 := by
  cases hproducer : session.hasProducer with
  | false => simpa [endProduction, hproducer] using .decline rfl
  | true =>
    cases hidle : session.isEnqueueing with
    | true => simpa [endProduction, hproducer, hidle] using .decline rfl
    | false =>
      simpa [endProduction, hproducer, hidle] using
        .leave hrequest hwithdraws (not_isEnqueueing hidle)

/-- Every command acts in one of these ways. -/
theorem applied_apply (session : Session) (command : Command) :
    session.Applied command (session.apply command).1 (session.apply command).2 := by
  cases command with
  | enqueue host =>
    cases hproducer : session.hasProducer with
    | true => simpa [apply, hproducer] using .start rfl (fun _ => hproducer) fun _ => rfl
    | false => simpa [apply, hproducer] using .decline rfl
  | receive consumer =>
    cases hconsumer : session.hasConsumer consumer with
    | true =>
      simpa [apply, hconsumer] using .start rfl (by simp [Request.isEnqueue]) fun _ => rfl
    | false => simpa [apply, hconsumer] using .decline rfl
  | clone consumer =>
    cases hconsumer : session.hasConsumer consumer with
    | true => simpa [apply, hconsumer] using .clone
    | false => simpa [apply, hconsumer] using .decline rfl
  | drop consumer =>
    cases hconsumer : session.hasConsumer consumer with
    | true => simpa [apply, hconsumer] using .drop hconsumer
    | false => simpa [apply, hconsumer] using .decline rfl
  | cancel id => exact .cancel
  | close | dropProducer => exact applied_endProduction rfl fun _ => rfl

/-- No command touches the hosts of the queue or its room, or counts as another one. -/
theorem Applied.frame (h : session.Applied command next reply) :
    next.queue.items = session.queue.items ∧
      next.queue.capacity = session.queue.capacity ∧
      next.commands = session.commands := by
  cases h <;> exact ⟨rfl, rfl, rfl⟩

/-- A command that takes no operation back leaves all of them. -/
theorem withdrawn_eq_nil (hwithdraws : ∀ operation, command.withdraws operation = false)
    (pending : List Pending) (reply : Reply) : command.withdrawn pending reply = [] := by
  rw [Command.withdrawn]
  split
  · rfl
  · exact List.filter_eq_nil_iff.mpr fun operation _ => by simp [hwithdraws operation]

/-- The operations after a command are those before it without the ones it takes back,
and behind them the one that it starts. -/
theorem Applied.pending (h : session.Applied command next reply) :
    (command.withdrawn session.pending reply ++ next.pending).Perm
        (session.pending ++ command.started session.commands reply) ∧
      next.pending.Sublist (session.pending ++ command.started session.commands reply) := by
  cases h with
  | start hrequest _ hwithdraws =>
    rw [withdrawn_eq_nil hwithdraws]
    simp [Command.started, Reply.isRefusal, hrequest, begin]
  | clone =>
    rw [withdrawn_eq_nil fun _ => rfl]
    simp [Command.started, Command.request?]
  | leave hrequest hwithdraws =>
    rw [withdrawn_eq_nil hwithdraws]
    simp [Command.started, hrequest]
  | decline hreply => simp [Command.withdrawn, Command.started, hreply]
  | drop | cancel =>
    simp only [Command.withdrawn, Command.started, Command.request?, Reply.isRefusal,
      Bool.false_eq_true, if_false, Option.map_none, Option.toList_none, List.append_nil]
    exact ⟨List.filter_append_perm .., List.filter_sublist⟩

/-- What holds of a queue with its operations, whether or not some of them can go on. -/
structure Sound (capacity : Nat) (session : Session) : Prop where
  /-- There is room for as many hosts as were asked for, and for one at least. -/
  capacity : session.queue.capacity = max capacity 1
  /-- No more hosts are there than fit. -/
  fits : session.queue.items.length ≤ session.queue.capacity
  /-- The queue is open while the producer is there. -/
  isOpen : session.queue.isOpen = session.hasProducer
  /-- The queue counts the consumers that are left. -/
  consumers : session.queue.consumers = session.consumers.count true
  /-- Without the producer no enqueue is left. -/
  receives : session.hasProducer = false →
    ∀ operation ∈ session.pending, operation.request.isEnqueue = false

/-- What holds when nothing goes on any more. -/
structure Settled (capacity : Nat) (session : Session) : Prop
    extends session.Sound capacity where
  /-- No operation that is left can finish. -/
  stuck : ∀ operation ∈ session.pending, Stuck session.queue operation

/-- At the start there is one consumer and no operation. -/
theorem settled_start (capacity : Nat) : (start capacity).Settled capacity where
  capacity := rfl
  fits := Nat.zero_le _
  isOpen := rfl
  consumers := rfl
  receives _ := by simp [start]
  stuck := by simp [start]

/-- Commands count the consumers right. -/
theorem Sound.consumers_applied (h : session.Sound capacity)
    (happlied : session.Applied command next reply) :
    next.queue.consumers = next.consumers.count true := by
  have hconsumers := h.consumers
  cases happlied with
  | start | cancel | leave | decline => exact hconsumers
  | clone => simp [addConsumer, hconsumers]
  | @drop consumer hconsumer =>
    have hlt : consumer < session.consumers.length := by
      refine Nat.lt_of_not_le fun hge => ?_
      simp [hasConsumer, List.getD, List.getElem?_eq_none hge] at hconsumer
    have htrue : session.consumers[consumer] = true := by
      simpa [hasConsumer, List.getD, hlt] using hconsumer
    simp [dropConsumer, hconsumers, List.count_set, hlt, htrue]

/-- Commands keep what holds of the queue. -/
theorem Sound.applied (h : session.Sound capacity)
    (happlied : session.Applied command next reply) : next.Sound capacity where
  capacity := happlied.frame.2.1.trans h.capacity
  fits := by
    rw [happlied.frame.1, happlied.frame.2.1]
    exact h.fits
  isOpen := by
    have hopen := h.isOpen
    cases happlied with
    | leave => rfl
    | start | clone | drop | cancel | decline => exact hopen
  consumers := h.consumers_applied happlied
  receives hclosed := by
    have hreceives := h.receives
    cases happlied with
    | @start _ request _ hproducer =>
      intro operation hmem
      rcases List.mem_append.mp hmem with hmem | hmem
      · exact hreceives hclosed operation hmem
      · rw [List.mem_singleton.mp hmem]
        cases henqueue : request.isEnqueue with
        | false => rfl
        | true => cases (hproducer henqueue).symm.trans hclosed
    | clone | decline => exact hreceives hclosed
    | drop | cancel =>
      exact fun operation hmem => hreceives hclosed operation (List.mem_filter.mp hmem).1
    | leave _ _ hidle => exact hidle

/-- Operations that wait together all put in or all take out: a queue is not full and empty
at once. -/
theorem Settled.exists_kind (h : session.Settled capacity) :
    ∃ isEnqueue, ∀ operation ∈ session.pending, operation.request.isEnqueue = isEnqueue := by
  by_cases hempty : session.queue.items = []
  · refine ⟨false, fun operation hmem => ?_⟩
    have hstuck := h.stuck operation hmem
    cases hrequest : operation.request with
    | receive => rfl
    | enqueue =>
      rw [Stuck, hrequest, attempt_enqueue_eq_none_iff, hempty, h.capacity] at hstuck
      have hpos : 1 ≤ max capacity 1 := Nat.le_max_right ..
      have hzero : max capacity 1 ≤ 0 := hstuck.2
      omega
  · refine ⟨true, fun operation hmem => ?_⟩
    have hstuck := h.stuck operation hmem
    cases hrequest : operation.request with
    | enqueue => rfl
    | receive =>
      rw [Stuck, hrequest, attempt_receive_eq_none_iff] at hstuck
      exact absurd hstuck.1 hempty

/-- A command and the tries that follow it. -/
structure Stepped (session : Session) (command : Command) (next : Session)
    (endings : List Ending) : Prop where
  /-- The command is carried out. -/
  applied : session.Applied command next (session.step command).2.1
  /-- Then the unfinished operations are tried. -/
  settling : Settling next.queue next.pending endings
    ⟨(session.step command).1.queue, (session.step command).1.pending,
      (session.step command).2.2⟩
  /-- Those that are left can not finish. -/
  stuck : ∀ operation ∈ (session.step command).1.pending,
    Stuck (session.step command).1.queue operation
  /-- The tries leave the handles as they are. -/
  handles : (session.step command).1.hasProducer = next.hasProducer ∧
    (session.step command).1.consumers = next.consumers
  /-- The next command has the next number. -/
  commands : (session.step command).1.commands = session.commands + 1

/-- Every step is such a step. -/
theorem exists_stepped (session : Session) (command : Command) :
    ∃ endings, session.Stepped command (session.apply command).1 endings := by
  have happlied := session.applied_apply command
  obtain ⟨endings, hsettling, hstuck⟩ :=
    exists_settle (session.apply command).1.queue (session.apply command).1.pending
  exact ⟨endings, happlied, hsettling, hstuck, ⟨rfl, rfl⟩,
    congrArg (· + 1) happlied.frame.2.2⟩

/-- After every step the session is settled again. -/
theorem Settled.stepped (h : session.Settled capacity)
    (hstep : session.Stepped command next endings) :
    (session.step command).1.Settled capacity where
  capacity := by
    rw [hstep.settling.served.frame.1]
    exact (h.toSound.applied hstep.applied).capacity
  fits := hstep.settling.served.frame.2.2.2 (h.toSound.applied hstep.applied).fits
  isOpen := by
    rw [hstep.settling.served.frame.2.1, hstep.handles.1]
    exact (h.toSound.applied hstep.applied).isOpen
  consumers := by
    rw [hstep.settling.served.frame.2.2.1, hstep.handles.2]
    exact (h.toSound.applied hstep.applied).consumers
  receives hclosed operation hmem :=
    (h.toSound.applied hstep.applied).receives (hstep.handles.1 ▸ hclosed) operation
      (hstep.settling.waiting.subset hmem)
  stuck := hstep.stuck

end Session

end HeaderScan.WorkQueue
