import HeaderScan.Queue.Session

/-!
# What a try can do

`Tried` lists every way in which an operation on a queue can finish. Operations that
finish one after the other are `Served`: what they take out are, in order, the hosts that
were there before and those that they have put in, and nothing else of the queue changes.
-/

namespace HeaderScan.WorkQueue

/-- The host that an operation wants to put in. -/
def Request.host? : Request → Option Host
  | .enqueue host => some host
  | .receive _ => none

/-- The operation puts a host in. -/
def Request.isEnqueue : Request → Bool
  | .enqueue _ => true
  | .receive _ => false

/-- The host that an operation has taken out. -/
def Outcome.host? : Outcome → Option Host
  | .received host => host
  | .enqueued | .failed _ => none

/-- The host of the operation was put in. -/
def Outcome.isEnqueued : Outcome → Bool
  | .enqueued => true
  | .failed _ | .received _ => false

/-- The host of the operation was refused, since nobody was left to take it. -/
def Outcome.isRefused : Outcome → Bool
  | .failed (.queueClosed _) => true
  | _ => false

/-- The hosts that operations want to put in, in order. -/
def hosts (operations : List Pending) : List Host := operations.filterMap (·.request.host?)

/-- The operations that put a host in. -/
def enqueues (operations : List Pending) : List Pending :=
  operations.filter (·.request.isEnqueue)

/-- The hosts that were taken out, in order. -/
def received (completions : List Completion) : List Host :=
  completions.filterMap (·.outcome.host?)

@[simp] theorem hosts_append (earlier later : List Pending) :
    hosts (earlier ++ later) = hosts earlier ++ hosts later := List.filterMap_append

@[simp] theorem enqueues_append (earlier later : List Pending) :
    enqueues (earlier ++ later) = enqueues earlier ++ enqueues later := List.filter_append ..

@[simp] theorem received_append (earlier later : List Completion) :
    received (earlier ++ later) = received earlier ++ received later := List.filterMap_append

/-- Only enqueues have a host to put in. -/
theorem hosts_enqueues (operations : List Pending) :
    hosts (enqueues operations) = hosts operations := by
  rw [hosts, enqueues, List.filterMap_filter, hosts]
  congr 1
  funext operation
  cases operation.request <;> rfl

/-- An operation that has finished, and how. -/
structure Ending where
  /-- The operation. -/
  operation : Pending
  /-- How it ended. -/
  outcome : Outcome

/-- What is told of an operation that has finished. -/
def Ending.completion (ending : Ending) : Completion := ⟨ending.operation.id, ending.outcome⟩

/-- The operations that have put their host in, in order. -/
def accepted (endings : List Ending) : List Pending :=
  (endings.filter (·.outcome.isEnqueued)).map (·.operation)

@[simp] theorem accepted_append (earlier later : List Ending) :
    accepted (earlier ++ later) = accepted earlier ++ accepted later := by
  simp [accepted]

/-- How an operation can finish, and the queue after it. -/
inductive Tried (queue : WorkQueue Host) : Request → Outcome → WorkQueue Host → Prop where
  /-- There is room, and somebody to take the host. -/
  | accept {host : Host} (hconsumers : queue.consumers ≠ 0)
      (hroom : queue.items.length < queue.capacity) :
      Tried queue (.enqueue host) .enqueued { queue with items := queue.items ++ [host] }
  /-- Nobody is left to take the host. -/
  | refuse {host : Host} (hconsumers : queue.consumers = 0) :
      Tried queue (.enqueue host) (.failed (.queueClosed host.text)) queue
  /-- The first host is taken. -/
  | take {consumer : Nat} {first : Host} {rest : List Host} (hitems : queue.items = first :: rest) :
      Tried queue (.receive consumer) (.received (some first)) { queue with items := rest }
  /-- No host will come any more. -/
  | finish {consumer : Nat} (hitems : queue.items = []) (hclosed : queue.isOpen = false) :
      Tried queue (.receive consumer) (.received none) queue

variable {queue next after : WorkQueue Host} {request : Request} {outcome : Outcome}
  {operation : Pending} {ending : Ending} {endings earlier later : List Ending}

/-- A try that succeeds does so in one of these ways. -/
theorem tried_of_attempt (h : queue.attempt request = some (outcome, after)) :
    Tried queue request outcome after := by
  cases request with
  | enqueue host =>
    by_cases hconsumers : queue.consumers = 0
    · simp only [attempt, offer, hconsumers, if_true, Option.some.injEq, Prod.mk.injEq] at h
      obtain ⟨rfl, rfl⟩ := h
      exact .refuse hconsumers
    · by_cases hroom : queue.items.length < queue.capacity
      · simp only [attempt, offer, hconsumers, if_false, hroom, if_true, Option.some.injEq,
          Prod.mk.injEq] at h
        obtain ⟨rfl, rfl⟩ := h
        exact .accept hconsumers hroom
      · simp [attempt, offer, hconsumers, hroom] at h
  | receive consumer =>
    cases hitems : queue.items with
    | cons first rest =>
      simp only [attempt, WorkQueue.take, hitems, Option.some.injEq, Prod.mk.injEq] at h
      obtain ⟨rfl, rfl⟩ := h
      exact .take hitems
    | nil =>
      cases hopen : queue.isOpen with
      | true => simp [attempt, WorkQueue.take, hitems, hopen] at h
      | false =>
        simp only [attempt, WorkQueue.take, hitems, hopen, Bool.false_eq_true, if_false,
          Option.some.injEq, Prod.mk.injEq] at h
        obtain ⟨rfl, rfl⟩ := h
        exact .finish hitems hopen

/-- In each of these ways a try succeeds. -/
theorem Tried.attempt (h : Tried queue request outcome after) :
    queue.attempt request = some (outcome, after) := by
  cases h with
  | accept hconsumers hroom => simp [WorkQueue.attempt, offer, hconsumers, hroom]
  | refuse hconsumers => simp [WorkQueue.attempt, offer, hconsumers]
  | take hitems => simp [WorkQueue.attempt, WorkQueue.take, hitems]
  | finish hitems hclosed => simp [WorkQueue.attempt, WorkQueue.take, hitems, hclosed]

/-- An enqueue waits exactly while the queue is full and a consumer is left. -/
theorem attempt_enqueue_eq_none_iff {host : Host} :
    queue.attempt (.enqueue host) = none ↔
      queue.consumers ≠ 0 ∧ queue.capacity ≤ queue.items.length := by
  by_cases hconsumers : queue.consumers = 0
  · simp [attempt, offer, hconsumers]
  · by_cases hroom : queue.items.length < queue.capacity
    · simp [attempt, offer, hconsumers, hroom]
    · have hfull : queue.capacity ≤ queue.items.length := Nat.le_of_not_lt hroom
      simp [attempt, offer, hconsumers, hroom, hfull]

/-- A receive waits exactly while the queue is empty and open. -/
theorem attempt_receive_eq_none_iff {consumer : Nat} :
    queue.attempt (.receive consumer) = none ↔ queue.items = [] ∧ queue.isOpen = true := by
  cases hitems : queue.items <;> cases hopen : queue.isOpen <;>
    simp [attempt, WorkQueue.take, hitems, hopen]

/-! ## Operations that finish one after the other -/

/-- Operations finish in this order; each meets the queue that the one before it has left. -/
inductive Served : WorkQueue Host → List Ending → WorkQueue Host → Prop where
  /-- Nothing finishes. -/
  | nil {queue : WorkQueue Host} : Served queue [] queue
  /-- The first operation finishes, then the later ones. -/
  | cons {queue next after : WorkQueue Host} {ending : Ending} {later : List Ending}
      (htried : Tried queue ending.operation.request ending.outcome next)
      (hlater : Served next later after) : Served queue (ending :: later) after

/-- What goes on where something else has ended is served too. -/
theorem Served.append (hearlier : Served queue earlier next) (hlater : Served next later after) :
    Served queue (earlier ++ later) after := by
  induction hearlier with
  | nil => exact hlater
  | cons htried _ ih => exact .cons htried (ih hlater)

/-- Every operation that finishes meets a queue in between. -/
theorem Served.split (h : Served queue (earlier ++ later) after) :
    ∃ next, Served queue earlier next ∧ Served next later after := by
  induction earlier generalizing queue with
  | nil => exact ⟨queue, .nil, h⟩
  | cons ending earlier ih =>
    obtain - | ⟨htried, hrest⟩ := h
    obtain ⟨next, hearlier, hlater⟩ := ih hrest
    exact ⟨next, .cons htried hearlier, hlater⟩

/-- A try changes nothing of a queue but its hosts, and never puts in too many. -/
theorem Tried.frame (h : Tried queue request outcome after) :
    after.capacity = queue.capacity ∧ after.isOpen = queue.isOpen ∧
      after.consumers = queue.consumers ∧
      (queue.items.length ≤ queue.capacity → after.items.length ≤ after.capacity) := by
  cases h with
  | accept _ hroom =>
    refine ⟨rfl, rfl, rfl, fun _ => ?_⟩
    rw [List.length_append]
    exact hroom
  | refuse | finish => exact ⟨rfl, rfl, rfl, id⟩
  | take hitems =>
    refine ⟨rfl, rfl, rfl, fun hfits => ?_⟩
    rw [hitems] at hfits
    exact Nat.le_of_succ_le hfits

/-- So do operations that are served. -/
theorem Served.frame (h : Served queue endings after) :
    after.capacity = queue.capacity ∧ after.isOpen = queue.isOpen ∧
      after.consumers = queue.consumers ∧
      (queue.items.length ≤ queue.capacity → after.items.length ≤ after.capacity) := by
  induction h with
  | nil => exact ⟨rfl, rfl, rfl, id⟩
  | cons htried _ ih =>
    obtain ⟨hcapacity, hopen, hconsumers, hfits⟩ := htried.frame
    obtain ⟨hcapacity', hopen', hconsumers', hfits'⟩ := ih
    exact ⟨hcapacity'.trans hcapacity, hopen'.trans hopen, hconsumers'.trans hconsumers,
      hfits' ∘ hfits⟩

/-- First in, first out: the hosts that were taken out and those that are left are the
hosts that were there and those that were put in, in order. -/
theorem Served.hosts (h : Served queue endings after) :
    received (endings.map Ending.completion) ++ after.items =
      queue.items ++ WorkQueue.hosts (accepted endings) := by
  induction h with
  | nil => simp [received, accepted, WorkQueue.hosts]
  | @cons queue next after ending later htried _ ih =>
    obtain ⟨⟨id, request⟩, outcome⟩ := ending
    cases htried with
    | accept =>
      simpa [received, accepted, WorkQueue.hosts, Ending.completion, Outcome.host?,
        Outcome.isEnqueued, Request.host?] using ih
    | refuse | finish =>
      simpa [received, accepted, WorkQueue.hosts, Ending.completion, Outcome.host?,
        Outcome.isEnqueued] using ih
    | take hitems =>
      simpa [received, accepted, WorkQueue.hosts, Ending.completion, Outcome.host?,
        Outcome.isEnqueued, hitems] using ih

/-- The queue grows by no more hosts than operations are served. -/
theorem Served.length_items_le (h : Served queue endings after) :
    after.items.length ≤ queue.items.length + endings.length := by
  induction h with
  | nil => exact Nat.le_refl _
  | @cons queue next after ending later htried _ ih =>
    obtain ⟨⟨id, request⟩, outcome⟩ := ending
    rw [List.length_cons]
    cases htried with
    | accept =>
      rw [List.length_append, List.length_singleton] at ih
      omega
    | refuse | finish => omega
    | @take _ _ rest hitems =>
      change after.items.length ≤ rest.length + later.length at ih
      rw [hitems, List.length_cons]
      omega

/-- An enqueue fails, by the name of its host, exactly when no consumer is left. -/
theorem Tried.enqueue {host : Host} (h : Tried queue (.enqueue host) outcome after) :
    outcome = (if queue.consumers = 0 then .failed (.queueClosed host.text) else .enqueued) := by
  cases h with
  | accept hconsumers => rw [if_neg hconsumers]
  | refuse hconsumers => rw [if_pos hconsumers]

/-- A receive gets the first host, or none from a queue that is closed and drained. -/
theorem Tried.receive {consumer : Nat} (h : Tried queue (.receive consumer) outcome after) :
    outcome = .received queue.items.head? ∧ (queue.items = [] → queue.isOpen = false) := by
  cases h with
  | take hitems => simp [hitems]
  | finish hitems hclosed => simp [hitems, hclosed]

/-- Each of the operations that are served was tried on a queue that differs from the one
at the start only in its hosts. -/
theorem Served.exists_tried (h : Served queue endings after) (hmem : ending ∈ endings) :
    ∃ met left, Tried met ending.operation.request ending.outcome left ∧
      met.isOpen = queue.isOpen ∧ met.consumers = queue.consumers := by
  obtain ⟨earlier, later, rfl⟩ := List.append_of_mem hmem
  obtain ⟨met, hearlier, - | ⟨htried, -⟩⟩ := h.split
  exact ⟨met, _, htried, hearlier.frame.2.1, hearlier.frame.2.2.1⟩

/-! ## Drained queues -/

/-- No operation takes a host from a queue that is drained, if no enqueue is served. -/
theorem Served.drained (h : Served queue endings after) (hitems : queue.items = [])
    (hreceives : ∀ ending ∈ endings, ending.operation.request.isEnqueue = false) :
    after = queue ∧ ∀ ending ∈ endings, ending.outcome = .received none := by
  induction h with
  | nil => simp
  | @cons queue next after ending later htried _ ih =>
    obtain ⟨⟨id, request⟩, outcome⟩ := ending
    cases htried with
    | accept | refuse => cases hreceives _ (.head _)
    | take hsome => cases hsome.symm.trans hitems
    | finish =>
      obtain ⟨rfl, hlater⟩ := ih hitems fun ending hmem => hreceives ending (.tail _ hmem)
      exact ⟨rfl, List.forall_mem_cons.mpr ⟨rfl, hlater⟩⟩

/-- A receive that gets none finds the queue drained, and drained it stays: nothing is
taken out after it. -/
theorem Served.pairwise (h : Served queue endings after)
    (hreceives : queue.isOpen = false →
      ∀ ending ∈ endings, ending.operation.request.isEnqueue = false) :
    endings.Pairwise fun first second =>
      first.outcome = .received none → second.outcome.host? = none := by
  induction h with
  | nil => exact .nil
  | @cons queue next after ending later htried hlater ih =>
    have hopen := htried.frame.2.1
    have htail (hclosed : queue.isOpen = false) : ∀ ending ∈ later,
        ending.operation.request.isEnqueue = false :=
      fun ending hmem => hreceives hclosed ending (.tail _ hmem)
    refine .cons (fun second hmem hnone => ?_) (ih (hopen ▸ htail))
    obtain ⟨⟨id, request⟩, outcome⟩ := ending
    cases htried with
    | accept | refuse | take => cases hnone
    | finish hitems hclosed =>
      rw [(hlater.drained hitems (htail hclosed)).2 second hmem]
      rfl

end HeaderScan.WorkQueue
