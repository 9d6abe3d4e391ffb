import HeaderScan.Proofs.Scan.Cancelled

/-!
# How much is under way

The queue and the channel have limited room, and a worker has one host in its hands at
a time. So the hosts that were put into the queue and that have come to no end are at
most as many as fit into the queue, into the hands of the workers and into the channel,
however long the list is.
-/

namespace HeaderScan.Scan

variable {config : ScanConfig} {scan after : Scan} {step : Step} {w : Nat}

/-- Queue and channel hold no more than they have room for. -/
structure Roomy (scan : Scan) : Prop where
  /-- The hosts fit into the queue. -/
  queue : scan.pool.queue.items.length ≤ scan.pool.queue.capacity
  /-- The responses fit into the channel. -/
  results : scan.pool.results.items.length ≤ scan.pool.results.slots

/-- A host or a response comes in only where there is room. -/
theorem Roomy.stepped (h : scan.Roomy) (hstep : Stepped scan step after) : after.Roomy := by
  obtain ⟨hqueue, hresults⟩ := h
  cases hstep with
  | worker hmoved =>
    cases hmoved with
    | take _ hitems =>
      rw [hitems, List.length_cons] at hqueue
      exact ⟨Nat.le_of_succ_le hqueue, hresults⟩
    | send _ _ hturn =>
      -- Whoever has a turn stands before a free slot.
      have hfree := Nat.lt_of_le_of_lt (Nat.zero_le _) hturn
      refine ⟨hqueue, ?_⟩
      change (scan.pool.results.items ++ [_]).length ≤ scan.pool.results.slots
      rw [Channel.free] at hfree
      rw [List.length_append, List.length_singleton]
      omega
    | @letGo _ share => cases share <;> exact ⟨hqueue, hresults⟩
    | _ => exact ⟨hqueue, hresults⟩
  | offer _ _ _ hroom =>
    refine ⟨?_, hresults⟩
    change (scan.pool.queue.items ++ [_]).length ≤ scan.pool.queue.capacity
    rw [List.length_append, List.length_singleton]
    omega
  | collect _ _ hitems =>
    rw [hitems, List.length_cons] at hresults
    exact ⟨hqueue, Nat.le_of_succ_le hresults⟩
  | spawn | run | cancel | exhaust | heed | look | refuse | giveUp | close | finish | join
  | wake =>
    exact ⟨hqueue, hresults⟩

/-- Whatever happens, queue and channel do not overflow. -/
theorem Reachable.roomy (h : Reachable config scan) : scan.Roomy :=
  h.induction (motive := Roomy) ⟨Nat.zero_le _, Nat.zero_le _⟩
    fun _ hscan hstep => hscan.stepped hstep

/-- As a queue always has room for one host, the queue of a scan has exactly the room that
is configured. -/
theorem Provided.capacity_eq (h : scan.Provided config) :
    scan.pool.queue.capacity = config.queueCapacity := by
  have hworkers := config.workers_pos
  have hmax : 1 ≤ Count.max := by decide
  rw [h.capacity, ScanConfig.queueCapacity]
  omega

/-- There are no more workers with something to show than are configured. -/
theorem Provided.length_shown_le {α : Type} (h : scan.Provided config)
    (view : Phase → Option α) : (scan.pool.shown view).length ≤ config.workers := by
  have hworkers := h.workers
  rw [Pool.length_shown]
  refine Nat.le_trans List.countP_le_length ?_
  omega

/-- The hosts that were put into the queue and are neither reported nor lost: in the
channel with their response, in the hands of a worker, or in the queue. -/
def pending (scan : Scan) : List Host :=
  scan.pool.results.items.map (·.response.host) ++ scan.pool.hands.map Prod.snd ++
    scan.pool.queue.items

/-- A host that was put into the queue is reported, pending or lost. -/
theorem Reachable.enqueued_perm (h : Reachable config scan) :
    scan.enqueued.Perm
      (scan.responses.map (·.host) ++ scan.pending ++ scan.pool.ledger.lost.map Prod.snd) := by
  have hperm := (h.partitioned.handedOut.map Prod.snd).append_right scan.pool.queue.items
  simp only [List.map_append, List.map_map, Delivery.place, Function.comp_def,
    List.append_assoc] at hperm
  simp only [enqueued, responses, pending, List.map_map, Function.comp_def, List.append_assoc]
  exact hperm.trans (((List.perm_append_comm.append_left _).append_left _).append_left _)

/-- There is room for two hosts of each worker besides what fits into the queue: one in its
hands and one whose response is in the channel. -/
theorem Reachable.length_pending_le (h : Reachable config scan) :
    scan.pending.length ≤ config.queueCapacity + 2 * config.workers := by
  have hqueue := h.roomy.queue
  have hresults := h.roomy.results
  have hhands := h.provided.length_shown_le Phase.host?
  rw [h.provided.capacity_eq] at hqueue
  rw [h.provided.slots] at hresults
  simp only [pending, List.length_append, List.length_map, Pool.hands]
  omega

/-- The hosts that a scan has under way are limited. -/
structure Limited (config : ScanConfig) (scan : Scan) : Prop where
  /-- No more probes are in flight than there are workers. -/
  inFlight : scan.pool.inFlight.length ≤ config.workers
  /-- No worker has two probes in flight. -/
  single : ∀ w, (entriesOf w scan.pool.inFlight).length ≤ 1
  /-- The queue holds no more hosts than it has room for. -/
  queue : scan.pool.queue.items.length ≤ config.queueCapacity
  /-- The channel holds no more responses than there are workers. -/
  results : scan.pool.results.items.length ≤ config.workers
  /-- The hosts that were put into the queue were reported, were each lost to the panic of
  a worker, or are among a limited number of others. -/
  enqueued : ∃ others, scan.enqueued.Perm
      (scan.responses.map (·.host) ++ others ++ scan.pool.ledger.lost.map Prod.snd) ∧
    scan.pool.ledger.lost.length =
      (scan.pool.phases.countP fun phase => phase.exit? = some .panicked) ∧
    others.length ≤ config.queueCapacity + 2 * config.workers

/-- A scan after a worker was handed the next host of the list. -/
structure Handed (config : ScanConfig) (scan after : Scan) (w : Nat) (host : Host) : Prop where
  /-- The host is the first that was not handed out before. -/
  next : config.hosts[scan.pool.ledger.handedOut.length]? = some host ∧
    after.pool.ledger.handedOut = scan.pool.ledger.handedOut ++ [(w, host)]
  /-- It comes into the hands of the worker, which had none in them. -/
  hands : after.pool.hands.Perm (scan.pool.hands ++ [(w, host)]) ∧
    entriesOf w scan.pool.hands = []
  /-- What is in the hands of the others stands before it in the list. -/
  earlier : (scan.pool.hands.map Prod.snd).Subperm
    (config.hosts.take scan.pool.ledger.handedOut.length)
  /-- These hosts are fewer than the workers. -/
  fewer : scan.pool.hands.length ≤ config.workers - 1

/-- Only a worker that takes a host from the queue adds to what was handed out. -/
theorem Stepped.handedOut (h : Stepped scan step after) :
    after.pool.ledger.handedOut = scan.pool.ledger.handedOut ∨
      ∃ w host rest, scan.pool.phases[w]? = some .listening ∧
        scan.pool.queue.items = host :: rest ∧
        after.pool.phases = scan.pool.phases.set w (.holding host) ∧
        after.pool.ledger.handedOut = scan.pool.ledger.handedOut ++ [(w, host)] := by
  cases h with
  | @worker w _ _ hmoved =>
    cases hmoved with
    | @take host rest hphase hitems =>
      exact .inr ⟨w, host, rest, hphase, hitems, Pool.phases_setPhase _ _ _, rfl⟩
    | @letGo _ share => cases share <;> exact .inl rfl
    | _ => exact .inl rfl
  | _ => exact .inl rfl

/-- What the workers have in their hands was handed out. -/
theorem Reachable.hands_subperm (h : Reachable config scan) :
    scan.pool.hands.Subperm scan.pool.ledger.handedOut := by
  refine List.Subperm.trans ?_ h.partitioned.handedOut.symm.subperm
  exact ((List.sublist_append_right _ _).trans (List.sublist_append_left _ _)).subperm

/-- A worker that waits for a host has no host, and gets one when it is handed one. -/
theorem hands_of_set {host : Host} (hphase : scan.pool.phases[w]? = some .listening)
    (hphases : after.pool.phases = scan.pool.phases.set w (.holding host)) :
    after.pool.hands.Perm (scan.pool.hands ++ [(w, host)]) := by
  apply perm_of_entriesOf
  intro v
  rw [entriesOf_append, Pool.hands, Pool.hands, Pool.entriesOf_shown, Pool.entriesOf_shown,
    hphases, getElem?_set_of_some hphase]
  by_cases hv : v = w
  · subst hv
    rw [if_pos rfl, hphase]
    simp [Phase.host?]
  · rw [if_neg hv, entriesOf_cons_ne (Ne.symm hv), entriesOf_nil, List.append_nil]

/-- A step that adds to what was handed out hands the next host of the list to a worker,
while no other worker has more than one of the hosts before it. -/
theorem Reachable.exists_handed (h : Reachable config scan) (hstep : Stepped scan step after)
    (hnew : after.pool.ledger.handedOut ≠ scan.pool.ledger.handedOut) :
    ∃ w host, scan.Handed config after w host := by
  rcases hstep.handedOut with heq | ⟨w, host, rest, hphase, hitems, hphases, hhandedOut⟩
  · exact absurd heq hnew
  have hhands := hands_of_set hphase hphases
  refine ⟨w, host, ⟨?_, hhandedOut⟩, ⟨hhands, ?_⟩, ?_, ?_⟩
  · rw [h.ordered.hosts, hitems]
    simp
  · rw [Pool.hands, Pool.entriesOf_shown, hphase]
    rfl
  · rw [h.ordered.take_hosts]
    obtain ⟨front, hperm, hfront⟩ := h.hands_subperm
    exact ⟨front.map Prod.snd, hperm.map _, hfront.map _⟩
  · have hafter : after.pool.hands.length ≤ config.workers :=
      (h.step step hstep.step?).provided.length_shown_le Phase.host?
    rw [hhands.length_eq, List.length_append, List.length_singleton] at hafter
    omega

/-- The bounds hold in every scan that can come about. -/
theorem Reachable.limited (h : Reachable config scan) : scan.Limited config where
  inFlight := h.provided.length_shown_le Phase.inFlight?
  single := scan.pool.length_entriesOf_shown_le Phase.inFlight?
  queue := h.provided.capacity_eq ▸ h.roomy.queue
  results := h.provided.slots ▸ h.roomy.results
  enqueued := ⟨scan.pending, h.enqueued_perm, h.length_lost, h.length_pending_le⟩

/-- In every scan that can come about, whatever was cancelled and whatever has panicked,
queue, channel and workers limit what is under way. A host is handed to a worker only when
all hosts before it but one for each other worker are out of the hands of the workers. -/
theorem work_bounded (h : Reachable config scan) :
    scan.Limited config ∧
      ∀ step after, scan.step? step = some after →
        after.pool.ledger.handedOut ≠ scan.pool.ledger.handedOut →
        ∃ w host, scan.Handed config after w host :=
  ⟨h.limited, fun _ _ hstep => h.exists_handed (stepped_of_step? hstep)⟩

/-- Four hosts for one worker. -/
def fourHosts : ScanConfig := ⟨[⟨"a"⟩, ⟨"b"⟩, ⟨"c"⟩, ⟨"d"⟩], 1, Nat.one_pos⟩

/-- Nothing is collected: the response for the first host fills the channel, the worker
waits to send the second one, and the other hosts fill the queue. -/
def congestedRun : List Step :=
  [.spawn, .run, .look, .offer, .worker 0 .look, .worker 0 .fetch, .worker 0 .begin,
    .worker 0 (.answer .timeout), .worker 0 .send, .look, .offer, .worker 0 .look,
    .worker 0 .fetch, .worker 0 .begin, .worker 0 (.answer .timeout), .look, .offer, .look,
    .offer]

/-- The second worker has the first host in its hands, and the first worker waits for the
other. -/
def overtakingRun : List Step :=
  [.spawn, .spawn, .run, .look, .offer, .look, .offer, .worker 0 .look, .worker 1 .look,
    .worker 1 .fetch]

/-- The cases of a scan in which as many hosts are pending as can be, and of a host that is
handed out while the one before it is still in the hands of a worker. -/
theorem work_bounded_congested :
    (∃ scan, (Scan.start fourHosts).follow? congestedRun = some scan ∧
      scan.pending.length = fourHosts.queueCapacity + 2 * fourHosts.workers ∧
      scan.Limited fourHosts) ∧
    ∃ scan after w host, (Scan.start pairOfWorkers).follow? overtakingRun = some scan ∧
      scan.step? (.worker 0 .fetch) = some after ∧
      scan.pool.hands.length = pairOfWorkers.workers - 1 ∧
      scan.Handed pairOfWorkers after w host := by
  constructor
  · obtain ⟨scan, hrun, hfull⟩ : ∃ scan,
        (Scan.start fourHosts).follow? congestedRun = some scan ∧
        scan.pending.length = fourHosts.queueCapacity + 2 * fourHosts.workers := ⟨_, rfl, rfl⟩
    exact ⟨scan, hrun, hfull, (work_bounded (Reachable.start.follow? hrun)).1⟩
  · obtain ⟨scan, hrun, hhands, after, hstep, hnew⟩ : ∃ scan,
        (Scan.start pairOfWorkers).follow? overtakingRun = some scan ∧
        scan.pool.hands.length = pairOfWorkers.workers - 1 ∧ ∃ after,
        scan.step? (.worker 0 .fetch) = some after ∧
        after.pool.ledger.handedOut ≠ scan.pool.ledger.handedOut :=
      ⟨_, rfl, rfl, _, rfl, by decide⟩
    obtain ⟨w, host, hhanded⟩ :=
      (work_bounded (Reachable.start.follow? hrun)).2 _ _ hstep hnew
    exact ⟨scan, after, w, host, hrun, hstep, hhands, hhanded⟩

end HeaderScan.Scan
