import HeaderScan.Proofs.Pool.Custody
import HeaderScan.Proofs.Pool.Shares
import HeaderScan.Proofs.Scan.Run
import HeaderScan.Proofs.Tally

/-!
# The conduct of a scan

What holds in every reachable scan, apart from the histories of its workers: the shares
of the pool are counted right at every stage, the hosts pass in order from the feed
through the queue to the workers, the responses pass in order through the channel to the
report, and no stage begins before the last has done its work.
-/

namespace HeaderScan

namespace Stage

/-- The workers that are still to be started. -/
def unstarted : Stage → Nat
  | starting left => left
  | _ => 0

/-- The shares that the scan keeps for itself while it starts its workers. -/
def spare : Stage → Nat
  | starting _ => 1
  | _ => 0

/-- Feed and collector have ended. -/
def isOver : Stage → Bool
  | awaiting _ | returned => true
  | _ => false

@[simp] theorem unstarted_running : running.unstarted = 0 := rfl

@[simp] theorem spare_running : running.spare = 0 := rfl

@[simp] theorem unstarted_awaiting (wait : Barrier.Wait) : (awaiting wait).unstarted = 0 := rfl

@[simp] theorem spare_awaiting (wait : Barrier.Wait) : (awaiting wait).spare = 0 := rfl

end Stage

namespace Scan

@[simp] theorem unstarted_ofWait (wait : Barrier.Wait) : (Stage.ofWait wait).unstarted = 0 := by
  cases wait <;> rfl

@[simp] theorem spare_ofWait (wait : Barrier.Wait) : (Stage.ofWait wait).spare = 0 := by
  cases wait <;> rfl

/-- After a look at the barrier no worker is to be started any more. -/
theorem ofWait_ne_starting (wait : Barrier.Wait) (left : Nat) :
    Stage.ofWait wait ≠ .starting left := by
  cases wait <;> simp [Stage.ofWait]

/-- What the scan has made its pool with, and the shares that are counted in it. -/
structure Provided (config : ScanConfig) (scan : Scan) : Prop where
  /-- The queue has its configured room, and always some. -/
  capacity : scan.pool.queue.capacity = max config.queueCapacity 1
  /-- The channel has a slot for every worker. -/
  slots : scan.pool.results.slots = config.workers
  /-- The scan keeps the receiver. -/
  hasReceiver : scan.pool.results.hasReceiver = true
  /-- Every configured worker is started or still to be started. -/
  workers : scan.pool.phases.length + scan.stage.unstarted = config.workers
  /-- Every share is held by a worker or by the scan itself. -/
  shared : scan.pool.Shared scan.stage.spare
  /-- The line before the channel is in order. -/
  lined : scan.pool.Lined

/-- The way of the hosts into the queue and of the responses out of the channel. -/
structure Ordered (config : ScanConfig) (scan : Scan) : Prop where
  /-- The hosts that were handed out, those in the queue and those that the feed has left
  make up the list. -/
  hosts : config.hosts =
    scan.pool.ledger.handedOut.map Prod.snd ++ scan.pool.queue.items ++ scan.feed.remaining
  /-- The responses that were reported and those in the channel are all that were sent. -/
  sent : scan.pool.ledger.sent = scan.reported ++ scan.pool.results.items
  /-- The summary counts the responses that were reported. -/
  summary : scan.summary = Summary.tally scan.responses

/-- What each stage of a scan can rely on. -/
structure Staged (config : ScanConfig) (scan : Scan) : Prop where
  /-- The queue is open until the feed has closed it. -/
  isOpen : scan.pool.queue.isOpen = !scan.feed.isDone
  /-- Nothing is fed or collected before all workers are started. -/
  starting : ∀ left, scan.stage = .starting left →
    scan.feed = .looking config.hosts ∧ scan.isCollecting = true
  /-- The collector ends when the channel is drained and nobody can send any more. -/
  collected : scan.isCollecting = false →
    scan.pool.results.senders = 0 ∧ scan.pool.results.items = []
  /-- The wait for the guards begins when feed and collector have ended. -/
  joined : scan.stage.isOver = true → scan.feed.isDone = true ∧ scan.isCollecting = false
  /-- The wait has seen every notification but the one for the last guard. -/
  awaiting : ∀ wait, scan.stage = .awaiting wait → ∃ seen, wait = .since seen ∧
    (scan.pool.barrier.outstanding = 0 → seen < scan.pool.barrier.notifications) ∧
    (scan.pool.barrier.outstanding ≠ 0 → seen = scan.pool.barrier.notifications)
  /-- The scan returns when every guard was given back. -/
  returned : scan.stage = .returned → scan.pool.barrier.outstanding = 0

variable {config : ScanConfig} {scan after : Scan} {step : Step}

/-- When all workers are started the pool has as many as are configured. -/
theorem Provided.length_phases (h : scan.Provided config) (hstarted : scan.stage.unstarted = 0) :
    scan.pool.phases.length = config.workers := by
  have hworkers := h.workers
  omega

/-- Then each of them has a phase. -/
theorem Provided.exists_phase (h : scan.Provided config) (hstarted : scan.stage.unstarted = 0)
    {w : Nat} (hw : w < config.workers) : ∃ phase, scan.pool.phases[w]? = some phase := by
  have hlength := h.length_phases hstarted
  exact ⟨_, List.getElem?_eq_getElem (by omega)⟩

/-- At the start no worker is there, and the scan keeps a share of each kind. -/
theorem provided_start (config : ScanConfig) : (Scan.start config).Provided config where
  capacity := rfl
  slots := rfl
  hasReceiver := rfl
  workers := by simp [Scan.start, Pool.new, Stage.unstarted]
  shared := Pool.shared_new _ _
  lined := Pool.lined_new _ _

/-- Every step keeps what the pool was made with, and the count of its shares. -/
theorem Provided.stepped (h : scan.Provided config) (hstep : Stepped scan step after) :
    after.Provided config := by
  obtain ⟨hcapacity, hslots, hreceiver, hworkers, hshared, hlined⟩ := h
  cases hstep with
  | spawn hstage =>
    rw [hstage] at hshared hworkers
    refine ⟨hcapacity, hslots, hreceiver, ?_, hshared.spawn, hlined.spawn⟩
    simp only [Pool.phases_spawn, List.length_append, List.length_singleton, Stage.unstarted]
      at hworkers ⊢
    omega
  | run hstage =>
    rw [hstage] at hshared hworkers
    exact ⟨hcapacity, hslots, hreceiver, hworkers, hshared.release, ⟨hlined.nodup, hlined.mem_iff⟩⟩
  | worker hmoved =>
    obtain ⟨hcapacity', _, hslots'⟩ := hmoved.bounds
    exact ⟨hcapacity'.trans hcapacity, hslots'.trans hslots, hmoved.flags.2.trans hreceiver,
      by rw [← hworkers, ← hmoved.length_phases], hshared.moved hmoved, hlined.moved hmoved⟩
  | cancel | exhaust | heed | look | offer | refuse | giveUp | close | collect | finish =>
    exact ⟨hcapacity, hslots, hreceiver, hworkers, ⟨hshared.1, hshared.2, hshared.3⟩,
      ⟨hlined.1, hlined.2⟩⟩
  | join hstage =>
    rw [hstage] at hshared hworkers
    exact ⟨hcapacity, hslots, hreceiver, by simpa using hworkers, by simpa using hshared, hlined⟩
  | wake hstage =>
    rw [hstage] at hshared hworkers
    exact ⟨hcapacity, hslots, hreceiver, by simpa using hworkers, by simpa using hshared, hlined⟩

/-- At the start the feed has all hosts. -/
theorem ordered_start (config : ScanConfig) : (Scan.start config).Ordered config where
  hosts := rfl
  sent := rfl
  summary := rfl

/-- No step loses a host or a response on its way, or lets one pass another. -/
theorem Ordered.stepped (h : scan.Ordered config) (hstep : Stepped scan step after) :
    after.Ordered config := by
  obtain ⟨hhosts, hsent, hsummary⟩ := h
  cases hstep with
  | spawn | run | cancel | finish | join | wake => exact ⟨hhosts, hsent, hsummary⟩
  | worker hmoved =>
    obtain ⟨new, hnew, hitems⟩ := hmoved.sent
    refine ⟨?_, ?_, hsummary⟩
    · rw [hhosts, ← hmoved.taken]
    · change _ = scan.reported ++ _
      rw [hnew, hitems, hsent, List.append_assoc]
  | exhaust _ hfeed | heed _ hfeed | look _ hfeed | refuse _ hfeed | giveUp _ hfeed
  | close _ hfeed =>
    rw [hfeed] at hhosts
    exact ⟨hhosts, hsent, hsummary⟩
  | offer _ hfeed =>
    rw [hfeed] at hhosts
    refine ⟨?_, hsent, hsummary⟩
    simpa [Feed.remaining] using hhosts
  | collect _ _ hitems =>
    refine ⟨hhosts, ?_, ?_⟩
    · simpa [hitems] using hsent
    · simp [responses, hsummary, Summary.tally_concat]

/-- At the start nothing is fed and nothing collected. -/
theorem staged_start (config : ScanConfig) : (Scan.start config).Staged config where
  isOpen := rfl
  starting _ _ := ⟨rfl, rfl⟩
  collected h := by cases h
  joined h := by cases h
  awaiting _ h := by cases h
  returned h := by cases h

/-- A stage that looks at the barrier has seen all its notifications, or is the last. -/
theorem awaiting_look (barrier : Barrier) (wait : Barrier.Wait)
    (hstage : Stage.ofWait barrier.look = .awaiting wait) :
    wait = .since barrier.notifications ∧ barrier.outstanding ≠ 0 := by
  by_cases hnone : barrier.outstanding = 0
  · simp [Barrier.look, hnone, Stage.ofWait] at hstage
  · simp only [Barrier.look, hnone, if_false, Stage.ofWait, Stage.awaiting.injEq] at hstage
    exact ⟨hstage.symm, hnone⟩

/-- A look at the barrier ends the scan only when no guard is held. -/
theorem returned_look (barrier : Barrier) (hstage : Stage.ofWait barrier.look = .returned) :
    barrier.outstanding = 0 := by
  by_contra hsome
  simp [Barrier.look, hsome, Stage.ofWait] at hstage

/-- A wait that goes on looks at the barrier. -/
theorem poll_eq_look {barrier : Barrier} {wait : Barrier.Wait}
    (hnext : barrier.poll wait ≠ wait) : barrier.poll wait = barrier.look := by
  cases wait with
  | done => exact absurd rfl hnext
  | since seen =>
    by_cases hseen : seen < barrier.notifications
    · simp [Barrier.poll, hseen]
    · simp [Barrier.poll, hseen] at hnext

/-- The queue is closed by the feed alone. -/
theorem Staged.isOpen_stepped (h : scan.Staged config) (hstep : Stepped scan step after) :
    after.pool.queue.isOpen = !after.feed.isDone := by
  have hopen := h.isOpen
  cases hstep with
  | worker hmoved => exact hmoved.bounds.2.1.trans hopen
  | spawn | run | cancel | collect | finish | join | wake => exact hopen
  | close => rfl
  | exhaust _ hfeed | heed _ hfeed | look _ hfeed | offer _ hfeed | refuse _ hfeed
  | giveUp _ hfeed =>
    rw [hfeed] at hopen
    exact hopen

/-- Feed and collector do not move while workers are started. -/
theorem Staged.starting_stepped (h : scan.Staged config) (hstep : Stepped scan step after)
    (left : Nat) (hleft : after.stage = .starting left) :
    after.feed = .looking config.hosts ∧ after.isCollecting = true := by
  cases hstep with
  | spawn hstage => exact h.starting _ hstage
  | worker | cancel => exact h.starting _ hleft
  | run => cases hleft
  | exhaust hstage | heed hstage | look hstage | offer hstage | refuse hstage | giveUp hstage
  | close hstage | collect hstage | finish hstage =>
    cases hstage.symm.trans hleft
  | join | wake => exact absurd hleft (ofWait_ne_starting _ _)

/-- A channel without senders stays drained. -/
theorem Staged.collected_stepped (h : scan.Staged config) (hprovided : scan.Provided config)
    (hstep : Stepped scan step after) (hcollecting : after.isCollecting = false) :
    after.pool.results.senders = 0 ∧ after.pool.results.items = [] := by
  cases hstep with
  | spawn hstage | run hstage =>
    have hstill := (h.starting _ hstage).2
    rw [hcollecting] at hstill
    cases hstill
  | worker hmoved =>
    obtain ⟨hsenders, hitems⟩ := h.collected hcollecting
    have hresults := hmoved.results_eq fun phase hphase =>
      hprovided.shared.not_hasSender hsenders hphase
    exact ⟨by simp only [hresults, hsenders], by simp only [hresults, hitems]⟩
  | cancel | exhaust | heed | look | offer | refuse | giveUp | close | join | wake =>
    exact h.collected hcollecting
  | collect _ hstill =>
    cases hstill.symm.trans hcollecting
  | finish _ _ hitems hsenders => exact ⟨hsenders, hitems⟩

/-- Feed and collector do not begin again. -/
theorem Staged.joined_stepped (h : scan.Staged config) (hstep : Stepped scan step after)
    (hover : after.stage.isOver = true) :
    after.feed.isDone = true ∧ after.isCollecting = false := by
  cases hstep with
  | spawn | run => cases hover
  | worker | cancel => exact h.joined hover
  | wake hstage => exact h.joined (by simp [hstage, Stage.isOver])
  | join _ hfeed hcollecting => exact ⟨hfeed, hcollecting⟩
  | exhaust hstage | heed hstage | look hstage | offer hstage | refuse hstage | giveUp hstage
  | close hstage | collect hstage | finish hstage =>
    simp [hstage, Stage.isOver] at hover

/-- A wait misses no notification. -/
theorem Staged.awaiting_stepped (h : scan.Staged config) (hprovided : scan.Provided config)
    (hstep : Stepped scan step after) (wait : Barrier.Wait)
    (hwait : after.stage = .awaiting wait) : ∃ seen, wait = .since seen ∧
      (after.pool.barrier.outstanding = 0 → seen < after.pool.barrier.notifications) ∧
      (after.pool.barrier.outstanding ≠ 0 → seen = after.pool.barrier.notifications) := by
  cases hstep with
  | spawn | run => cases hwait
  | cancel => exact h.awaiting wait hwait
  | worker hmoved =>
    obtain ⟨seen, hseen, hnone, hsome⟩ := h.awaiting wait hwait
    rcases hmoved.barrier with heq | ⟨exit, hphase, heq⟩
    · exact ⟨seen, hseen, by simpa only [heq] using hnone, by simpa only [heq] using hsome⟩
    · -- A guard is given back, so one was held, and the wait has seen every notification.
      have hheld : scan.pool.barrier.outstanding ≠ 0 := by
        intro hzero
        cases hprovided.shared.not_hasGuard hzero hphase
      have hcurrent := hsome hheld
      refine ⟨seen, hseen, ?_, ?_⟩ <;> simp only [heq, Barrier.release] <;> split <;> omega
  | exhaust hstage | heed hstage | look hstage | offer hstage | refuse hstage | giveUp hstage
  | close hstage | collect hstage | finish hstage =>
    cases hstage.symm.trans hwait
  | join =>
    obtain ⟨rfl, hsome⟩ := awaiting_look _ _ hwait
    exact ⟨_, rfl, fun hnone => absurd hnone hsome, fun _ => rfl⟩
  | wake _ hnext =>
    rw [poll_eq_look hnext] at hwait
    obtain ⟨rfl, hsome⟩ := awaiting_look _ _ hwait
    exact ⟨_, rfl, fun hnone => absurd hnone hsome, fun _ => rfl⟩

/-- After the return no guard is taken. -/
theorem Staged.returned_stepped (h : scan.Staged config) (hprovided : scan.Provided config)
    (hstep : Stepped scan step after) (hreturned : after.stage = .returned) :
    after.pool.barrier.outstanding = 0 := by
  cases hstep with
  | spawn | run => cases hreturned
  | cancel => exact h.returned hreturned
  | worker hmoved =>
    have hnone := h.returned hreturned
    rcases hmoved.barrier with heq | ⟨exit, hphase, -⟩
    · simp only [heq, hnone]
    · cases hprovided.shared.not_hasGuard hnone hphase
  | exhaust hstage | heed hstage | look hstage | offer hstage | refuse hstage | giveUp hstage
  | close hstage | collect hstage | finish hstage =>
    cases hstage.symm.trans hreturned
  | join => exact returned_look _ hreturned
  | wake _ hnext =>
    rw [poll_eq_look hnext] at hreturned
    exact returned_look _ hreturned

/-- Every step leaves each stage with what it can rely on. -/
theorem Staged.stepped (h : scan.Staged config) (hprovided : scan.Provided config)
    (hstep : Stepped scan step after) : after.Staged config where
  isOpen := h.isOpen_stepped hstep
  starting := h.starting_stepped hstep
  collected := h.collected_stepped hprovided hstep
  joined := h.joined_stepped hstep
  awaiting := h.awaiting_stepped hprovided hstep
  returned := h.returned_stepped hprovided hstep

/-! ## Reachable scans -/

theorem Reachable.provided (h : Reachable config scan) : scan.Provided config :=
  h.induction (motive := fun scan => scan.Provided config) (provided_start config)
    fun _ hscan hstep => hscan.stepped hstep

theorem Reachable.ordered (h : Reachable config scan) : scan.Ordered config :=
  h.induction (motive := fun scan => scan.Ordered config) (ordered_start config)
    fun _ hscan hstep => hscan.stepped hstep

theorem Reachable.staged (h : Reachable config scan) : scan.Staged config :=
  h.induction (motive := fun scan => scan.Staged config) (staged_start config)
    fun hbefore hscan hstep => hscan.stepped hbefore.provided hstep

end Scan

end HeaderScan
