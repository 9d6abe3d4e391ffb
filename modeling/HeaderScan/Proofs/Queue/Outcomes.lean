import HeaderScan.Proofs.Queue.Story

/-!
# What waits, and how it ends

When nothing goes on any more an enqueue waits only at a full queue and a receive only at
an empty one that is open. An enqueue fails exactly when no consumer is left; a receive
gets none exactly when the producer is gone and the queue drained, and then it stays so.
-/

namespace HeaderScan.WorkQueue

variable {queue after : WorkQueue Host} {pending : List Pending} {operation : Pending}
  {outcome : Outcome} {ending : Ending} {endings : List Ending}

/-- A receive that gets none leaves the queue drained, whatever is served after it. -/
theorem Served.drained_of_none (h : Served queue endings after)
    (hreceives : queue.isOpen = false →
      ∀ ending ∈ endings, ending.operation.request.isEnqueue = false)
    (hmem : ending ∈ endings) (hnone : ending.outcome = .received none) :
    after.items = [] ∧ after.isOpen = false := by
  obtain ⟨earlier, later, rfl⟩ := List.append_of_mem hmem
  obtain ⟨met, hearlier, hlater⟩ := h.split
  obtain - | ⟨htried, hlater⟩ := hlater
  have hopen := hearlier.frame.2.1
  obtain ⟨operation, outcome⟩ := ending
  obtain ⟨id, request⟩ := operation
  cases htried with
  | accept | refuse | take => cases hnone
  | finish hitems hclosed =>
    have htail : ∀ ending ∈ later, ending.operation.request.isEnqueue = false :=
      fun ending hmem => hreceives (hopen ▸ hclosed) ending
        (List.mem_append_right _ (.tail _ hmem))
    rw [(hlater.drained hitems htail).1]
    exact ⟨hitems, hclosed⟩

namespace Session

variable {session next : Session} {command : Command} {reply : Reply} {capacity : Nat}

/-- The queue counts a consumer exactly when one is left. -/
theorem Sound.consumers_ne_zero_iff (h : session.Sound capacity) :
    session.queue.consumers ≠ 0 ↔ ∃ consumer, session.hasConsumer consumer = true := by
  rw [h.consumers, ← Nat.pos_iff_ne_zero, List.count_pos_iff]
  constructor
  · intro hmem
    obtain ⟨consumer, hconsumer⟩ := List.getElem?_of_mem hmem
    exact ⟨consumer, by simp [hasConsumer, List.getD, hconsumer]⟩
  · rintro ⟨consumer, hconsumer⟩
    cases hget : session.consumers[consumer]? with
    | none => simp [hasConsumer, List.getD, hget] at hconsumer
    | some isLeft =>
      have hleft : isLeft = true := by simpa [hasConsumer, List.getD, hget] using hconsumer
      exact hleft ▸ List.mem_of_getElem? hget

/-- What waits, and for what. -/
structure Balanced (capacity : Nat) (session : Session) : Prop where
  /-- No more hosts are in the queue than it was made for. -/
  fits : session.queue.items.length ≤ max capacity 1
  /-- An enqueue waits for room, and for a consumer that is left to make it. -/
  enqueue : ∀ operation ∈ session.pending, operation.request.isEnqueue = true →
    session.queue.items.length = max capacity 1 ∧
      ∃ consumer, session.hasConsumer consumer = true
  /-- A receive waits for a host, and for a producer that is left to put it in. -/
  receive : ∀ operation ∈ session.pending, operation.request.isEnqueue = false →
    session.queue.items = [] ∧ session.hasProducer = true
  /-- Enqueues and receives do not wait at the same time. -/
  apart : ∀ first ∈ session.pending, ∀ second ∈ session.pending,
    first.request.isEnqueue = second.request.isEnqueue

/-- When nothing goes on any more, all that waits has to. -/
theorem Settled.balanced (h : session.Settled capacity) : session.Balanced capacity where
  fits := h.capacity ▸ h.fits
  enqueue operation hmem henqueue := by
    have hstuck := h.stuck operation hmem
    cases hrequest : operation.request with
    | receive => simp [hrequest, Request.isEnqueue] at henqueue
    | enqueue host =>
      rw [Stuck, hrequest, attempt_enqueue_eq_none_iff, h.toSound.consumers_ne_zero_iff] at hstuck
      have hfits := h.fits
      have hcapacity := h.capacity
      exact ⟨by omega, hstuck.1⟩
  receive operation hmem hreceive := by
    have hstuck := h.stuck operation hmem
    cases hrequest : operation.request with
    | enqueue => simp [hrequest, Request.isEnqueue] at hreceive
    | receive consumer =>
      rw [Stuck, hrequest, attempt_receive_eq_none_iff, h.isOpen] at hstuck
      exact hstuck
  apart first hfirst second hsecond := by
    obtain ⟨isEnqueue, hkind⟩ := h.exists_kind
    rw [hkind first hfirst, hkind second hsecond]

/-- How the operations end that finish after a command, each at its moment. -/
structure Answered (session : Session) (command : Command) (endings : List Ending) : Prop where
  /-- These are all that finish, in this order. -/
  completed : (session.step command).2.2 = endings.map Ending.completion
  /-- Each of them waited before or is started by the command. -/
  operations : ∀ ending ∈ endings, ending.operation ∈
    session.pending ++ command.started session.commands (session.step command).2.1
  /-- An enqueue fails exactly when no consumer is left, and the error names its host. -/
  enqueue : ∀ ending ∈ endings, ∀ host, ending.operation.request = .enqueue host →
    ((∃ error, ending.outcome = .failed error) ↔
      ¬ ∃ consumer, (session.step command).1.hasConsumer consumer = true) ∧
    ∀ error, ending.outcome = .failed error → error = .queueClosed host.text
  /-- A receive meets the queue as those before it have left it. It gets none exactly when
  no host is there and the producer is gone. -/
  receive : ∀ earlier ending later, endings = earlier ++ ending :: later →
    ∀ consumer, ending.operation.request = .receive consumer →
      ∃ met, Served (session.apply command).1.queue earlier met ∧
        (ending.outcome = .received none ↔
          met.items = [] ∧ (session.step command).1.hasProducer = false)

/-- The operations that finish after a command ended in this way. -/
theorem Settled.answered (h : session.Settled capacity)
    (hstep : session.Stepped command (session.apply command).1 endings) :
    session.Answered command endings where
  completed := hstep.settling.completed
  operations ending hmem := by
    refine hstep.applied.pending.2.subset (hstep.settling.perm.subset ?_)
    exact List.mem_append_left _ (List.mem_map_of_mem hmem)
  enqueue ending hmem host hrequest := by
    obtain ⟨met, left, htried, -, hconsumers⟩ := hstep.settling.served.exists_tried hmem
    rw [hrequest] at htried
    have houtcome := htried.enqueue
    have hleft := (h.stepped hstep).toSound.consumers_ne_zero_iff
    rw [hstep.settling.served.frame.2.2.1, ← hconsumers] at hleft
    rw [← hleft, houtcome]
    by_cases hnone : met.consumers = 0 <;> simp [hnone]
  receive earlier ending later heq consumer hrequest := by
    have hserved := hstep.settling.served
    rw [heq] at hserved
    obtain ⟨met, hearlier, - | ⟨htried, -⟩⟩ := hserved.split
    refine ⟨met, hearlier, ?_⟩
    rw [hrequest] at htried
    obtain ⟨houtcome, hclosed⟩ := htried.receive
    have hopen : met.isOpen = (session.step command).1.hasProducer :=
      hearlier.frame.2.1.trans
        (hstep.settling.served.frame.2.1.symm.trans (h.stepped hstep).isOpen)
    rw [houtcome, ← hopen]
    simpa using hclosed

/-- Without a consumer an enqueue fails at once. -/
theorem Settled.step_enqueue (h : session.Settled capacity)
    (hproducer : session.hasProducer = true)
    (hnone : ¬ ∃ consumer, session.hasConsumer consumer = true) (host : Host) :
    session.step (.enqueue host) =
      ({ session with commands := session.commands + 1 }, .done,
        [⟨session.commands, .failed (.queueClosed host.text)⟩]) := by
  have hconsumers : session.queue.consumers = 0 := by
    simpa [← h.toSound.consumers_ne_zero_iff] using hnone
  have hsettle : settle session.queue (session.pending ++ [⟨session.commands, .enqueue host⟩]) = _ :=
    settle_concat h.stuck (.refuse hconsumers)
  simp [step, apply, begin, hproducer, hsettle]

/-- From a drained queue whose producer is gone a receive gets none at once. -/
theorem Settled.step_receive (h : session.Settled capacity) {consumer : Nat}
    (hconsumer : session.hasConsumer consumer = true) (hproducer : session.hasProducer = false)
    (hitems : session.queue.items = []) :
    session.step (.receive consumer) =
      ({ session with commands := session.commands + 1 }, .done,
        [⟨session.commands, .received none⟩]) := by
  have hsettle : settle session.queue
      (session.pending ++ [⟨session.commands, .receive consumer⟩]) = _ :=
    settle_concat h.stuck (.finish hitems (h.isOpen.trans hproducer))
  simp [step, apply, begin, hconsumer, hsettle]

/-- What a producer that is gone has left behind does not grow. -/
theorem Applied.hasProducer (h : session.Applied command next reply)
    (hproducer : session.hasProducer = false) : next.hasProducer = false := by
  cases h with
  | leave => rfl
  | start | clone | drop | cancel | decline => exact hproducer

/-- Once the producer is gone only receives finish. -/
theorem Stepped.receives (hstep : session.Stepped command next endings)
    (h : session.Settled capacity) (hclosed : next.queue.isOpen = false) :
    ∀ ending ∈ endings, ending.operation.request.isEnqueue = false := by
  have hnext := h.toSound.applied hstep.applied
  intro ending hmem
  refine hnext.receives (hnext.isOpen ▸ hclosed) _ (hstep.settling.perm.subset ?_)
  exact List.mem_append_left _ (List.mem_map_of_mem hmem)

end Session

namespace Story

/-- Once a receive has got none, the queue is drained for good. -/
structure Final (story : Story) : Prop where
  /-- No receive gets a host after another one has got none. -/
  pairwise : story.completed.Pairwise fun first second =>
    first.outcome = .received none → second.outcome.host? = none
  /-- No host is left and the producer is gone. -/
  drained : ∀ completion ∈ story.completed, completion.outcome = .received none →
    story.session.queue.items = [] ∧ story.session.hasProducer = false

variable {story : Story} {command : Command} {next : Session} {capacity : Nat}
  {new : List Ending}

/-- After a receive that got none, a command leaves the queue drained, and what finishes with
it gets none too. -/
theorem Final.stepped (h : story.Final) (hsettled : story.session.Settled capacity)
    (hstep : story.session.Stepped command next new) {completion : Completion}
    (hmem : completion ∈ story.completed) (hnone : completion.outcome = .received none) :
    (story.tell command).session.queue.items = [] ∧
      (story.tell command).session.hasProducer = false ∧
      ∀ ending ∈ new, ending.outcome = .received none := by
  obtain ⟨hitems, hproducer⟩ := h.drained completion hmem hnone
  have hleft := hstep.applied.hasProducer hproducer
  have hclosed := (hsettled.toSound.applied hstep.applied).isOpen.trans hleft
  have hempty := hstep.applied.frame.1.trans hitems
  obtain ⟨hqueue, houtcome⟩ :=
    hstep.settling.served.drained hempty (hstep.receives hsettled hclosed)
  exact ⟨(congrArg WorkQueue.items hqueue).trans hempty, hstep.handles.1.trans hleft, houtcome⟩

/-- No command opens a drained queue again. -/
theorem Final.tell (h : story.Final) (hsettled : story.session.Settled capacity)
    (hstep : story.session.Stepped command next new) : (story.tell command).Final := by
  have hserved := hstep.settling.served
  have hreceives := hstep.receives hsettled
  have hcompleted : (story.tell command).completed =
      story.completed ++ new.map Ending.completion :=
    congrArg (story.completed ++ ·) hstep.settling.completed
  constructor
  case pairwise =>
    rw [hcompleted]
    refine List.pairwise_append.mpr ⟨h.pairwise, ?_, ?_⟩
    · exact List.pairwise_map.mpr (hserved.pairwise hreceives)
    · intro first hfirst second hsecond hnone
      obtain ⟨ending, hending, rfl⟩ := List.mem_map.mp hsecond
      have houtcome := (h.stepped hsettled hstep hfirst hnone).2.2 ending hending
      simp [Ending.completion, houtcome, Outcome.host?]
  case drained =>
    intro completion hmem hnone
    rw [hcompleted] at hmem
    rcases List.mem_append.mp hmem with hmem | hmem
    · obtain ⟨hempty, hproducer, -⟩ := h.stepped hsettled hstep hmem hnone
      exact ⟨hempty, hproducer⟩
    · obtain ⟨ending, hending, rfl⟩ := List.mem_map.mp hmem
      obtain ⟨hempty, hclosed⟩ := hserved.drained_of_none hreceives hending hnone
      exact ⟨hempty, (hsettled.stepped hstep).isOpen.symm.trans hclosed⟩

/-- In every story a queue that is drained stays drained. -/
theorem final_ofCommands (capacity : Nat) (commands : List Command) :
    (ofCommands capacity commands).Final := by
  have hall := ofCommands_induction
    (motive := fun story => story.session.Settled capacity ∧ story.Final) capacity commands
    ⟨Session.settled_start capacity, .nil, by simp [start]⟩
    fun story command ⟨hsettled, hfinal⟩ => by
      obtain ⟨new, hstep⟩ := story.session.exists_stepped command
      exact ⟨hsettled.stepped hstep, hfinal.tell hsettled hstep⟩
  exact hall.2

end Story

/-- After any commands no more hosts are in the queue than fit, and what waits has to: an
enqueue for room while a consumer is left, a receive for a host while the producer is left,
never both. Whatever the next command is, an enqueue that finishes fails exactly when no
consumer is left, by the name of its host, and a receive gets none exactly when it meets a
drained queue whose producer is gone. Both then end at once, and after a receive that got
none no other gets a host. -/
theorem outcomes_exact (capacity : Nat) (commands : List Command) :
    let story := Story.ofCommands capacity commands
    story.session.Balanced capacity ∧
      (∀ command, ∃ endings, story.session.Answered command endings) ∧
      (story.session.hasProducer = true →
        (¬ ∃ consumer, story.session.hasConsumer consumer = true) →
        ∀ host, story.session.step (.enqueue host) =
          ({ story.session with commands := story.session.commands + 1 }, .done,
            [⟨story.session.commands, .failed (.queueClosed host.text)⟩])) ∧
      (story.session.hasProducer = false → story.session.queue.items = [] →
        ∀ consumer, story.session.hasConsumer consumer = true →
          story.session.step (.receive consumer) =
            ({ story.session with commands := story.session.commands + 1 }, .done,
              [⟨story.session.commands, .received none⟩])) ∧
      story.Final := by
  intro story
  have hsettled : story.session.Settled capacity := Story.settled_ofCommands capacity commands
  refine ⟨hsettled.balanced, fun command => ?_, fun hproducer hnone => ?_,
    fun hproducer hitems consumer hconsumer => ?_, Story.final_ofCommands capacity commands⟩
  · obtain ⟨endings, hstep⟩ := story.session.exists_stepped command
    exact ⟨endings, hsettled.answered hstep⟩
  · exact hsettled.step_enqueue hproducer hnone
  · exact hsettled.step_receive hconsumer hproducer hitems

/-- When its only consumer is dropped, a queue refuses the host that waits, and every host
after it by name; a queue that is closed and drained gives a receive none at once. -/
theorem outcomes_exact_abandoned :
    let dropped := (Story.ofCommands 0 [.enqueue ⟨"a"⟩, .enqueue ⟨"b"⟩, .drop 0]).session
    let drained := (Story.ofCommands 0 [.enqueue ⟨"a"⟩, .close, .receive 0]).session
    dropped.pending = [] ∧
      dropped.step (.enqueue ⟨"c"⟩) =
        ({ dropped with commands := 4 }, .done, [⟨3, .failed (.queueClosed "c")⟩]) ∧
      drained.step (.receive 0) =
        ({ drained with commands := 4 }, .done, [⟨3, .received none⟩]) := by
  refine ⟨rfl, ?_, ?_⟩
  · obtain ⟨-, -, henqueue, -⟩ :=
      outcomes_exact 0 [.enqueue ⟨"a"⟩, .enqueue ⟨"b"⟩, .drop 0]
    refine henqueue rfl ?_ ⟨"c"⟩
    rintro ⟨consumer, hconsumer⟩
    cases consumer with
    | zero => exact absurd hconsumer (by decide)
    | succ => cases hconsumer
  · obtain ⟨-, -, -, hreceive, -⟩ := outcomes_exact 0 [.enqueue ⟨"a"⟩, .close, .receive 0]
    exact hreceive rfl rfl 0 rfl

end HeaderScan.WorkQueue
