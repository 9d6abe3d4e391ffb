import HeaderScan.Proofs.Queue.Commands
import Mathlib.Data.List.Nodup

/-!
# The story of a session

A story tells, beside a session, which operations were started, which were taken back
before they could finish, and which have finished. Every operation is in exactly one place:
it has finished, was taken back, or waits. Those that put a host in and are not taken back
or refused keep their order.
-/

namespace HeaderScan.WorkQueue

/-- A session and what has happened in it so far. -/
structure Story where
  /-- The session. -/
  session : Session
  /-- The operations that were started, in order. -/
  started : List Pending
  /-- The operations that were cancelled, or dropped with their consumer, while they waited. -/
  withdrawn : List Pending
  /-- The operations that have finished, in the order in which they did. -/
  completed : List Completion

namespace Story

/-- A session with nothing before it. -/
def start (capacity : Nat) : Story := ⟨.start capacity, [], [], []⟩

/-- The story goes on with a command. -/
def tell (story : Story) (command : Command) : Story :=
  let (session, reply, completed) := story.session.step command
  { session
    started := story.started ++ command.started story.session.commands reply
    withdrawn := story.withdrawn ++ command.withdrawn story.session.pending reply
    completed := story.completed ++ completed }

@[simp] theorem tell_started (story : Story) (command : Command) :
    (story.tell command).started = story.started ++
      command.started story.session.commands (story.session.step command).2.1 := rfl

/-- The story of these commands on a new queue. -/
def ofCommands (capacity : Nat) (commands : List Command) : Story :=
  commands.foldl tell (start capacity)

/-- The numbers of the operations that came to nothing: they were taken back, or refused. -/
def voided (story : Story) : List Nat :=
  story.withdrawn.map (·.id) ++ (story.completed.filter (·.outcome.isRefused)).map (·.id)

/-- The operations that were started and did not come to nothing, in order. -/
def kept (story : Story) : List Pending := story.started.filter (·.id ∉ story.voided)

/-- What every command keeps holds of every story. -/
theorem ofCommands_induction {motive : Story → Prop} (capacity : Nat) (commands : List Command)
    (hstart : motive (start capacity))
    (htell : ∀ story command, motive story → motive (story.tell command)) :
    motive (ofCommands capacity commands) := by
  rw [ofCommands]
  generalize start capacity = story at hstart
  induction commands generalizing story with
  | nil => exact hstart
  | cons command commands ih => exact ih _ (htell story command hstart)

variable {story : Story} {command : Command} {next : Session} {capacity : Nat}
  {endings new : List Ending}

/-- In every story the session is settled after each command. -/
theorem settled_ofCommands (capacity : Nat) (commands : List Command) :
    (ofCommands capacity commands).session.Settled capacity := by
  refine ofCommands_induction (motive := fun story => story.session.Settled capacity) capacity
    commands (Session.settled_start capacity) fun story command hsettled => ?_
  obtain ⟨endings, hstep⟩ := story.session.exists_stepped command
  exact hsettled.stepped hstep

/-- The account of a story in which these operations have finished. -/
structure Accounted (story : Story) (endings : List Ending) : Prop where
  /-- These are the operations whose ends were told. -/
  completed : story.completed = endings.map Ending.completion
  /-- Each of them ended as it may. -/
  tried : ∀ ending ∈ endings, ∃ met left, Tried met ending.operation.request ending.outcome left
  /-- Operations are numbered by the commands that start them. -/
  fresh : ∀ operation ∈ story.started, operation.id < story.session.commands
  /-- Those that start later have higher numbers. -/
  sorted : story.started.Pairwise fun first second => first.id < second.id
  /-- Every operation has finished, was taken back, or waits. -/
  perm : (endings.map (·.operation) ++ (story.withdrawn ++ story.session.pending)).Perm
    story.started
  /-- Enqueues are accepted in the order in which they start, before those that wait. -/
  enqueues : (accepted endings ++ enqueues story.session.pending).Pairwise
    fun first second => first.id < second.id
  /-- The hosts that were taken out and those that are left were put in in this order. -/
  hosts : received story.completed ++ story.session.queue.items = hosts (accepted endings)

/-- At the start nothing has happened. -/
theorem accounted_start (capacity : Nat) : (start capacity).Accounted [] where
  completed := rfl
  tried := by simp
  fresh := by simp [start]
  sorted := .nil
  perm := .nil
  enqueues := .nil
  hosts := rfl

/-- An operation that has put its host in is an enqueue that has finished. -/
theorem mem_accepted {operation : Pending} (hmem : operation ∈ accepted endings) :
    ∃ ending ∈ endings, ending.operation = operation ∧ ending.outcome.isEnqueued = true := by
  obtain ⟨ending, hending, rfl⟩ := List.mem_map.mp hmem
  obtain ⟨hending, houtcome⟩ := List.mem_filter.mp hending
  exact ⟨ending, hending, rfl, houtcome⟩

/-- Only an enqueue puts a host in. -/
theorem isEnqueue_of_isEnqueued {met left : WorkQueue Host} {request : Request}
    {outcome : Outcome} (h : Tried met request outcome left)
    (houtcome : outcome.isEnqueued = true) : request.isEnqueue = true := by
  cases h with
  | accept => rfl
  | refuse | take | finish => cases houtcome

/-- Accepted operations are among the enqueues that have finished, in their order. -/
theorem accepted_sublist
    (h : ∀ ending ∈ endings, ∃ met left,
      Tried met ending.operation.request ending.outcome left) :
    (accepted endings).Sublist (enqueues (endings.map (·.operation))) := by
  have hself : enqueues (accepted endings) = accepted endings := by
    refine List.filter_eq_self.mpr fun operation hmem => ?_
    obtain ⟨ending, hending, rfl, houtcome⟩ := mem_accepted hmem
    obtain ⟨met, left, htried⟩ := h ending hending
    exact isEnqueue_of_isEnqueued htried houtcome
  rw [← hself]
  exact (List.filter_sublist.map _).filter _

namespace Accounted

/-- An operation that has finished or waits was started. -/
theorem id_lt (h : story.Accounted endings) {operation : Pending}
    (hmem : operation ∈ accepted endings ++ WorkQueue.enqueues story.session.pending) :
    operation.id < story.session.commands := by
  apply h.fresh
  apply h.perm.subset
  rcases List.mem_append.mp hmem with hmem | hmem
  · obtain ⟨ending, hending, rfl, -⟩ := mem_accepted hmem
    exact List.mem_append_left _ (List.mem_map_of_mem hending)
  · exact List.mem_append_right _ (List.mem_append_right _ (List.mem_filter.mp hmem).1)

/-- A command has at most one operation, with its own number. -/
theorem started_cases (command : Command) (id : Nat) (reply : Reply) :
    command.started id reply = [] ∨ ∃ request, command.started id reply = [⟨id, request⟩] := by
  rw [Command.started]
  split
  · exact .inl rfl
  · cases command.request? with
    | none => exact .inl rfl
    | some request => exact .inr ⟨request, rfl⟩

/-- It has the number of the command. -/
theorem id_of_mem_started {operation : Pending} {id : Nat} {reply : Reply}
    (hmem : operation ∈ command.started id reply) : operation.id = id := by
  rcases started_cases command id reply with hnone | ⟨request, hsome⟩
  · rw [hnone] at hmem
    cases hmem
  · rw [hsome] at hmem
    rw [List.mem_singleton.mp hmem]

/-- Operations that follow others have higher numbers if they start later. -/
theorem pairwise_append_started {operations : List Pending} {id : Nat}
    (hsorted : operations.Pairwise fun first second => first.id < second.id)
    (hfresh : ∀ operation ∈ operations, operation.id < id) (command : Command) (reply : Reply) :
    (operations ++ command.started id reply).Pairwise
      fun first second => first.id < second.id := by
  rcases started_cases command id reply with hnone | ⟨request, hsome⟩
  · rwa [hnone, List.append_nil]
  · rw [hsome]
    refine List.pairwise_append.mpr ⟨hsorted, List.pairwise_singleton .., ?_⟩
    intro first hfirst second hsecond
    rw [List.mem_singleton.mp hsecond]
    exact hfresh first hfirst

/-- Enqueues that wait together with a new operation are accepted in order. -/
theorem enqueues_tell (h : story.Accounted endings) (hsettled : story.session.Settled capacity)
    (hstep : story.session.Stepped command next new) :
    (accepted (endings ++ new) ++ WorkQueue.enqueues (story.tell command).session.pending).Pairwise
      fun first second => first.id < second.id := by
  obtain ⟨isEnqueue, hkind⟩ := hsettled.exists_kind
  obtain ⟨-, hsub⟩ := hstep.applied.pending
  have hgrouped : Grouped next.pending := by
    refine (grouped_append hkind ?_).sublist hsub
    rcases started_cases command story.session.commands (story.session.step command).2.1 with
      hnone | ⟨request, hsome⟩
    · simp [hnone]
    · simp [hsome]
  have horder := hstep.settling.enqueues hgrouped
  have hnew : (accepted new).Sublist (WorkQueue.enqueues (new.map (·.operation))) :=
    accepted_sublist fun ending hmem => by
      obtain ⟨met, left, htried, -⟩ := hstep.settling.served.exists_tried hmem
      exact ⟨met, left, htried⟩
  -- All of them stood in line before the tries, behind those accepted earlier.
  have hline : (accepted endings ++ WorkQueue.enqueues (story.session.pending ++
      command.started story.session.commands (story.session.step command).2.1)).Pairwise
      fun first second => first.id < second.id := by
    have hlater := pairwise_append_started h.enqueues (fun _ => h.id_lt) command
      (story.session.step command).2.1
    refine hlater.sublist ?_
    rw [enqueues_append, ← List.append_assoc]
    exact List.filter_sublist.append_left _
  have hwaiting : (accepted new ++ WorkQueue.enqueues (story.tell command).session.pending).Sublist
      (WorkQueue.enqueues next.pending) := by
    rw [← horder]
    exact hnew.append_right _
  refine hline.sublist ?_
  rw [accepted_append, List.append_assoc]
  exact (hwaiting.trans (hsub.filter _)).append_left _

/-- Every command leaves each operation in one place. -/
theorem perm_tell (h : story.Accounted endings)
    (hstep : story.session.Stepped command next new) :
    ((endings ++ new).map (·.operation) ++
      ((story.tell command).withdrawn ++ (story.tell command).session.pending)).Perm
      (story.tell command).started := by
  -- What has finished now stood in line after the command, with what waits on.
  have hline : (new.map (·.operation) ++ (story.tell command).session.pending).Perm
      next.pending := hstep.settling.perm
  have hmoved := (List.perm_append_comm_assoc _ (story.tell command).withdrawn _).trans
    (hline.append_left (story.tell command).withdrawn)
  have htaken := hstep.applied.pending.1.append_left story.withdrawn
  simp only [tell, List.map_append, List.append_assoc] at hmoved htaken ⊢
  refine ((hmoved.trans htaken).append_left _).trans ?_
  simpa only [List.append_assoc] using h.perm.append_right _

/-- The account goes on with every command. -/
theorem tell (h : story.Accounted endings) (hsettled : story.session.Settled capacity)
    (hstep : story.session.Stepped command next new) :
    (story.tell command).Accounted (endings ++ new) where
  completed := by
    rw [List.map_append, ← h.completed, ← hstep.settling.completed]
    rfl
  tried ending hmem := by
    rcases List.mem_append.mp hmem with hmem | hmem
    · exact h.tried ending hmem
    · obtain ⟨met, left, htried, -⟩ := hstep.settling.served.exists_tried hmem
      exact ⟨met, left, htried⟩
  fresh operation hmem := by
    have hcommands : (story.tell command).session.commands = story.session.commands + 1 :=
      hstep.commands
    rw [hcommands]
    rw [tell_started] at hmem
    rcases List.mem_append.mp hmem with hmem | hmem
    · exact Nat.lt_succ_of_lt (h.fresh operation hmem)
    · rw [id_of_mem_started hmem]
      exact Nat.lt_succ_self _
  sorted := pairwise_append_started h.sorted h.fresh command _
  perm := h.perm_tell hstep
  enqueues := h.enqueues_tell hsettled hstep
  hosts := by
    have hserved := hstep.settling.served.hosts
    rw [← hstep.settling.completed, hstep.applied.frame.1] at hserved
    have hold := h.hosts
    simp only [Story.tell, received_append, accepted_append, hosts_append, List.append_assoc]
    rw [← hold, List.append_assoc, ← hserved]

end Accounted

/-- Every story is accounted for. -/
theorem exists_accounted (capacity : Nat) (commands : List Command) :
    ∃ endings, (ofCommands capacity commands).Accounted endings := by
  have hall := ofCommands_induction
    (motive := fun story => story.session.Settled capacity ∧ ∃ endings, story.Accounted endings)
    capacity commands ⟨Session.settled_start capacity, [], accounted_start capacity⟩
    fun story command ⟨hsettled, endings, haccounted⟩ => by
      obtain ⟨new, hstep⟩ := story.session.exists_stepped command
      exact ⟨hsettled.stepped hstep, endings ++ new, haccounted.tell hsettled hstep⟩
  exact hall.2

end Story

end HeaderScan.WorkQueue
