import HeaderScan.Proofs.Scan.Timeline
import HeaderScan.Scan.Launch
import HeaderScan.Scan.Network

/-!
# All probes are made first

A launch asks for one probe after the other until it has one for each worker or one cannot
be made. Until then its scan is as it was at the start, cancelled or not. So a probe that
cannot be made ends a launch that has done nothing, and a launch that goes on has made all
its probes before it does anything else.
-/

namespace HeaderScan

namespace Setup

variable {ε π : Type} {factory : Nat → Except ε π} {i n : Nat}

/-- The probe with the next number is asked for last. -/
theorem makeFrom_succ (factory : Nat → Except ε π) (first count : Nat) :
    makeFrom factory first (count + 1) =
      match (makeFrom factory first count).outcome with
      | .error _ => makeFrom factory first count
      | .ok probes => ⟨count + 1, (factory (first + count)).map (probes ++ [·])⟩ := by
  induction count generalizing first with
  | zero =>
    simp only [makeFrom, Nat.add_zero]
    cases factory first <;> rfl
  | succ count ih =>
    cases hfirst : factory first with
    | error error => simp [makeFrom, hfirst]
    | ok probe =>
      have hnext : first + 1 + count = first + (count + 1) := by omega
      have hunfold (count : Nat) : makeFrom factory first (count + 1) =
          ⟨(makeFrom factory (first + 1) count).calls + 1,
            (makeFrom factory (first + 1) count).outcome.map (probe :: ·)⟩ := by
        simp only [makeFrom, hfirst]
      rw [hunfold, ih, hunfold, hnext]
      obtain ⟨calls, error | probes⟩ := makeFrom factory (first + 1) count
      · rfl
      · cases factory (first + (count + 1)) <;> rfl

/-- As long as all probes could be made, as many were asked for as there are to be. -/
theorem calls_make (hok : (make factory n).outcome.isOk = true) : (make factory n).calls = n := by
  cases n with
  | zero => rfl
  | succ n =>
    rw [make, makeFrom_succ] at hok ⊢
    cases hmade : (makeFrom factory 0 n).outcome with
    | error error => simp [hmade, Except.isOk, Except.toBool] at hok
    | ok probes => rfl

/-- One more probe is made by asking for the next. -/
theorem make_succ (factory : Nat → Except ε π) (n : Nat) :
    make factory (n + 1) = (make factory n).ask factory := by
  have hcalls : (make factory n).outcome.isOk = true → (make factory n).calls = n := calls_make
  rw [make, makeFrom_succ, Nat.zero_add, ask]
  change (match (make factory n).outcome with | .error _ => _ | .ok _ => _) = _
  cases hmade : (make factory n).outcome with
  | error error => rfl
  | ok probes =>
    rw [hmade] at hcalls
    rw [hcalls rfl]

/-- To ask for a probe is one call. -/
theorem calls_ask {setup : Setup ε π} (hok : setup.outcome.isOk = true) :
    (setup.ask factory).calls = setup.calls + 1 := by
  rw [ask]
  cases hmade : setup.outcome with
  | error error => cases hmade ▸ hok
  | ok probes => rfl

/-- When every probe can be made, all of them are. -/
theorem make_of_isOk (hok : ∀ k, k < n → (factory k).isOk = true) : ∃ probes : List π,
    make factory n = ⟨n, .ok probes⟩ ∧ (List.range n).map factory = probes.map .ok := by
  induction n with
  | zero => exact ⟨[], rfl, rfl⟩
  | succ n ih =>
    obtain ⟨probes, hmake, hmap⟩ := ih fun k hk => hok k (by omega)
    cases hprobe : factory n with
    | error error => cases hprobe ▸ hok n (by omega)
    | ok probe =>
      refine ⟨probes ++ [probe], ?_, ?_⟩
      · rw [make_succ, hmake, ask, hprobe]
        rfl
      · rw [List.range_succ, List.map_append, List.map_append, hmap, List.map_singleton, hprobe]
        rfl

/-- The first probe that cannot be made is the last that is asked for. -/
theorem make_of_error {error : ε} (hfirst : ∀ k, k < i → (factory k).isOk = true)
    (herror : factory i = .error error) (hi : i < n) :
    make factory n = ⟨i + 1, .error error⟩ := by
  obtain ⟨more, rfl⟩ := Nat.exists_eq_add_of_lt hi
  induction more with
  | zero =>
    obtain ⟨probes, hmake, -⟩ := make_of_isOk hfirst
    rw [Nat.add_zero, make_succ, hmake, ask, herror]
    rfl
  | succ more ih => rw [← Nat.add_assoc, Nat.add_right_comm, make_succ, ih (by omega), ask]

end Setup

namespace Scan

variable {config : ScanConfig} {scan after : Scan}

/-- Nothing has happened to the scan but perhaps a cancellation. -/
structure Untouched (scan : Scan) : Prop where
  /-- No worker was registered. -/
  registered : scan.pool.barrier = .new
  /-- None was started. -/
  workers : scan.pool.workers = []
  /-- No host was put into the queue. -/
  enqueued : scan.enqueued = []
  /-- No probe was started. -/
  called : scan.pool.ledger.called = []
  /-- No response was reported. -/
  reported : scan.reported = []
  /-- The scan has not returned. -/
  going : scan.stage ≠ .returned

/-- At the start nothing has happened. -/
theorem untouched_start (config : ScanConfig) : (Scan.start config).Untouched :=
  ⟨rfl, rfl, rfl, rfl, rfl, by simp [Scan.start]⟩

/-- A cancellation does nothing by itself. -/
theorem Untouched.cancel (h : scan.Untouched) (hstep : Stepped scan .cancel after) :
    after.Untouched := by
  cases hstep with
  | cancel => exact ⟨h.registered, h.workers, h.enqueued, h.called, h.reported, h.going⟩

end Scan

namespace Launch

variable {ε π : Type} {config : ScanConfig} {factory : Nat → Except ε π}
  {launch before after : Launch ε π} {event : Event} {n : Nat}

/-- What holds of a launch, whatever probes can be made. -/
structure Launched (config : ScanConfig) (factory : Nat → Except ε π) (launch : Launch ε π) :
    Prop where
  /-- The probes were asked for in order. -/
  setup : launch.setup = .make factory launch.setup.calls
  /-- There is one for each worker at most. -/
  calls_le : launch.setup.calls ≤ config.workers
  /-- The scan can come about. -/
  scan : Scan.Reachable config launch.scan
  /-- Until there is a probe for each worker nothing happens. -/
  waiting : launch.setup.isComplete config.workers = false → launch.scan.Untouched

/-- A launch that has asked for nothing. -/
theorem launched_start (config : ScanConfig) (factory : Nat → Except ε π) :
    (start config : Launch ε π).Launched config factory :=
  ⟨rfl, Nat.zero_le _, .start, fun _ => Scan.untouched_start config⟩

/-- Whatever happens to a launch keeps that. -/
theorem Launched.happen (h : before.Launched config factory)
    (hevent : before.happen? config factory event = some after) :
    after.Launched config factory := by
  cases event with
  | ask =>
    simp only [happen?, Option.ite_none_right_eq_some, Option.some.injEq] at hevent
    obtain ⟨⟨hless, hok⟩, rfl⟩ := hevent
    have hcalls : (before.setup.ask factory).calls = before.setup.calls + 1 :=
      Setup.calls_ask hok
    refine ⟨?_, by rw [hcalls]; exact hless, h.scan, fun _ => h.waiting ?_⟩
    · rw [hcalls, Setup.make_succ, ← h.setup]
    · simp [Setup.isComplete, Nat.ne_of_lt hless]
  | step step =>
    simp only [happen?, Option.ite_none_right_eq_some, Option.map_eq_some_iff] at hevent
    obtain ⟨hallowed, scan, hstep, rfl⟩ := hevent
    refine ⟨h.setup, h.calls_le, .step step h.scan hstep, fun hwaiting => ?_⟩
    rcases hallowed with rfl | hcomplete
    · exact (h.waiting hwaiting).cancel (Scan.stepped_of_step? hstep)
    · cases hcomplete.symm.trans hwaiting

/-- It holds of every launch that can come about. -/
theorem Reachable.launched (h : Reachable config factory launch) :
    launch.Launched config factory := by
  induction h with
  | start => exact launched_start config factory
  | step event _ hevent ih => exact ih.happen hevent

/-- A launch asks for probes until it has them all or one could not be made. -/
theorem reachable_make (hn : n ≤ config.workers) (hok : ∀ k, k + 1 < n → (factory k).isOk = true) :
    Reachable config factory ⟨.make factory n, .start config⟩ := by
  induction n with
  | zero => exact .start
  | succ n ih =>
    obtain ⟨probes, hmake, -⟩ := Setup.make_of_isOk fun k hk => hok k (Nat.succ_lt_succ hk)
    refine .step .ask (ih (by omega) fun k hk => hok k (by omega)) ?_
    rw [Setup.make_succ, hmake]
    exact if_pos ⟨hn, rfl⟩

/-- A launch with all its probes goes through every scan that can come about. -/
theorem reachable_scan (hok : ∀ k, k < config.workers → (factory k).isOk = true) {scan : Scan}
    (hscan : Scan.Reachable config scan) :
    Reachable config factory ⟨.make factory config.workers, scan⟩ := by
  induction hscan with
  | start => exact reachable_make (Nat.le_refl _) fun k hk => hok k (by omega)
  | step step _ hstep ih =>
    obtain ⟨probes, hmake, -⟩ := Setup.make_of_isOk hok
    refine .step (.step step) ih ?_
    rw [hmake]
    simp [happen?, Setup.isComplete, Except.isOk, Except.toBool, hstep]

/-- A launch whose probes could be made has them. -/
theorem Launched.exists_probes (h : launch.Launched config factory)
    (hok : ∀ k, k < launch.setup.calls → (factory k).isOk = true) :
    ∃ probes, launch.setup.outcome = .ok probes := by
  obtain ⟨probes, hmake, -⟩ := Setup.make_of_isOk hok
  exact ⟨probes, by rw [h.setup, hmake]⟩

/-- A launch that still asks for probes has done nothing else. -/
theorem Launched.untouched (h : launch.Launched config factory)
    (hless : launch.setup.calls < config.workers) : launch.scan.Untouched :=
  h.waiting (by simp [Setup.isComplete, Nat.ne_of_lt hless])

/-- What a launch comes to when the probe with this number is the first that cannot be made. -/
theorem Launched.of_error {error : ε} {i : Nat} (h : launch.Launched config factory)
    (hi : i < config.workers) (hfirst : ∀ k, k < i → (factory k).isOk = true)
    (herror : factory i = .error error) :
    launch.scan.Untouched ∧
      (launch.result? = none ∧ launch.setup.calls ≤ i ∧
          launch.happen? config factory .ask ≠ none ∨
        launch.result? = some (.error error) ∧ launch.setup.calls = i + 1) := by
  by_cases hcalls : launch.setup.calls ≤ i
  · obtain ⟨probes, hprobes⟩ := h.exists_probes fun k hk => hfirst k (by omega)
    have huntouched := h.untouched (by omega)
    refine ⟨huntouched, .inl ⟨?_, hcalls, ?_⟩⟩
    · rw [result?, hprobes]
      exact if_neg huntouched.going
    · have hless : launch.setup.calls < config.workers := by omega
      simp [happen?, hprobes, hless, Except.isOk, Except.toBool]
  · have hsetup : launch.setup = ⟨i + 1, .error error⟩ := by
      rw [h.setup, Setup.make_of_error hfirst herror (by omega)]
    refine ⟨h.waiting ?_, .inr ⟨?_, ?_⟩⟩
    · simp [Setup.isComplete, hsetup, Except.isOk, Except.toBool]
    · rw [result?, hsetup]
    · rw [hsetup]

/-- A launch comes to its own scan, once that has returned. -/
theorem eq_of_result? {scan : Scan} (hresult : launch.result? = some (.ok scan)) :
    scan = launch.scan ∧ launch.scan.stage = .returned := by
  rw [result?] at hresult
  cases hmade : launch.setup.outcome with
  | error error => simp [hmade] at hresult
  | ok probes =>
    simp only [hmade, Option.ite_none_right_eq_some, Option.some.injEq, Except.ok.injEq] at hresult
    exact ⟨hresult.2.symm, hresult.1⟩

/-- What a launch comes to when every probe can be made. -/
theorem Launched.of_isOk (h : launch.Launched config factory)
    (hok : ∀ k, k < config.workers → (factory k).isOk = true) {result : Except ε Scan}
    (hresult : launch.result? = some result) :
    result = .ok launch.scan ∧ launch.scan.stage = .returned ∧
      launch.setup.calls = config.workers := by
  have hle := h.calls_le
  obtain ⟨probes, hprobes⟩ := h.exists_probes fun k hk => hok k (by omega)
  simp only [result?, hprobes, Option.ite_none_right_eq_some, Option.some.injEq] at hresult
  obtain ⟨hreturned, rfl⟩ := hresult
  refine ⟨rfl, hreturned, ?_⟩
  by_contra hcalls
  exact (h.untouched (by omega)).going hreturned

/-- A launch with clients comes to an error exactly when a client cannot be made. -/
theorem Launched.error_iff {builder : Http.ClientBuilder} {launch : Launch ScanError Http.Client}
    (h : launch.Launched config fun _ => builder.build) {result : Except ScanError Scan}
    (hresult : launch.result? = some result) (error : ScanError) :
    result = .error error ↔ builder.build = .error error := by
  have hworkers := config.workers_pos
  cases hbuild : builder.build with
  | error cause =>
    rcases (h.of_error hworkers (fun k hk => by omega) hbuild).2 with ⟨hnone, -⟩ | ⟨hsome, -⟩
    · cases hnone.symm.trans hresult
    · rw [hsome] at hresult
      cases hresult
      simp
  | ok client =>
    obtain ⟨rfl, -⟩ := h.of_isOk (fun k _ => by rw [hbuild]; rfl) hresult
    simp

/-- A scan over a network is what a launch with its clients comes to. -/
theorem exists_scanNetwork (network : Http.Network) (config : ScanConfig)
    (builder : Http.ClientBuilder) (cancelAt : Option Nat) :
    ∃ launch, Reachable config (fun _ => builder.build) launch ∧
      launch.result? = some (scanNetwork network config builder cancelAt) := by
  have hworkers := config.workers_pos
  rw [scanNetwork]
  generalize builder.build = made
  cases made with
  | error error =>
    have hmake (n : Nat) (hn : 0 < n) :
        (Setup.make (fun _ => .error error) n : Setup ScanError Http.Client) = ⟨1, .error error⟩ :=
      Setup.make_of_error (fun k hk => by omega) rfl hn
    refine ⟨_, reachable_make (Nat.succ_le_of_lt hworkers) fun k hk => by omega, ?_⟩
    rw [result?, hmake 1 (by omega), hmake config.workers hworkers]
  | ok client =>
    have hok : ∀ k, k < config.workers →
        (Except.ok client : Except ScanError Http.Client).isOk = true := fun _ _ => rfl
    obtain ⟨probes, hmake, hmap⟩ := Setup.make_of_isOk hok
    have hlength := congrArg List.length hmap
    cases probes with
    | nil =>
      simp only [List.length_map, List.length_range, List.length_nil] at hlength
      omega
    | cons first others =>
      have hrun := Timeline.run_finished config (first.plan network) cancelAt
      refine ⟨_, reachable_scan hok hrun.reachable, ?_⟩
      rw [result?, hmake]
      exact if_pos hrun.returned

/-- The probe with this number is the last that is asked for. -/
structure FailsAt (config : ScanConfig) (factory : Nat → Except ε π) (i : Nat) (error : ε) :
    Prop where
  /-- All probes are asked for up to this one, and its error is what comes of it. -/
  made : Setup.make factory config.workers = ⟨i + 1, .error error⟩
  /-- Some launch comes to the error. -/
  fails : ∃ launch, Reachable config factory launch ∧ launch.result? = some (.error error)
  /-- No launch does anything else. -/
  untouched : ∀ launch, Reachable config factory launch → launch.scan.Untouched
  /-- A launch asks for the next probe, or it has asked for this one and comes to the error. -/
  result : ∀ launch, Reachable config factory launch →
    launch.result? = none ∧ launch.setup.calls ≤ i ∧ launch.happen? config factory .ask ≠ none ∨
      launch.result? = some (.error error) ∧ launch.setup.calls = i + 1

/-- These are the probes of the workers, made before anything else happens. -/
structure Proceeds (config : ScanConfig) (factory : Nat → Except ε π) (probes : List π) :
    Prop where
  /-- There are as many calls as workers. -/
  made : Setup.make factory config.workers = ⟨config.workers, .ok probes⟩
  /-- Each call has made one of the probes. -/
  calls : (List.range config.workers).map factory = probes.map .ok
  /-- Every scan that can come about is that of a launch with these probes. -/
  goes_on : ∀ scan, Scan.Reachable config scan →
    Reachable config factory ⟨⟨config.workers, .ok probes⟩, scan⟩
  /-- A launch without all the probes has done nothing else. -/
  first : ∀ launch, Reachable config factory launch →
    launch.setup.calls < config.workers ∧ launch.scan.Untouched ∨
      launch.setup = ⟨config.workers, .ok probes⟩
  /-- A launch comes to its scan, and there is no other call for a probe then. -/
  result : ∀ launch result, Reachable config factory launch → launch.result? = some result →
    result = .ok launch.scan ∧ launch.setup.calls = config.workers

/-- A probe that cannot be made ends every launch. -/
theorem failsAt {i : Nat} {error : ε} (hi : i < config.workers)
    (hfirst : ∀ k, k < i → (factory k).isOk = true) (herror : factory i = .error error) :
    FailsAt config factory i error := by
  have hmake (n : Nat) (hn : i < n) : Setup.make factory n = ⟨i + 1, .error error⟩ :=
    Setup.make_of_error hfirst herror hn
  exact {
    made := hmake _ hi
    fails := by
      refine ⟨_, reachable_make hi fun k hk => hfirst k (by omega), ?_⟩
      rw [result?, hmake _ (Nat.lt_succ_self i)]
    untouched := fun _ h => (h.launched.of_error hi hfirst herror).1
    result := fun _ h => (h.launched.of_error hi hfirst herror).2 }

/-- When all probes can be made every launch goes on. -/
theorem exists_proceeds (hok : ∀ k, k < config.workers → (factory k).isOk = true) :
    ∃ probes, Proceeds config factory probes := by
  obtain ⟨probes, hmake, hmap⟩ := Setup.make_of_isOk hok
  refine ⟨probes, hmake, hmap, fun scan hscan => hmake ▸ reachable_scan hok hscan, ?_, ?_⟩
  · intro launch h
    rcases Nat.lt_or_eq_of_le h.launched.calls_le with hless | heq
    · exact .inl ⟨hless, h.launched.untouched hless⟩
    · exact .inr (by rw [h.launched.setup, heq, hmake])
  · intro launch result h hresult
    obtain ⟨heq, -, hcalls⟩ := h.launched.of_isOk hok hresult
    exact ⟨heq, hcalls⟩

/-- A probe that cannot be made ends a launch that has done nothing. Whatever the factory
answers to each call, the first probe of a worker that cannot be made is the last that is
asked for, and its error is all that a launch comes to; if every worker gets its probe, all
of them are made before anything else happens, even if there are no hosts. With clients as
probes a launch comes to an error exactly when the client cannot be made, and to that one. -/
theorem factory_failure_atomic (config : ScanConfig) (factory : Nat → Except ε π) :
    (∀ i error, i < config.workers → (∀ k, k < i → (factory k).isOk = true) →
      factory i = .error error → FailsAt config factory i error) ∧
    ((∀ k, k < config.workers → (factory k).isOk = true) →
      ∃ probes, Proceeds config factory probes) ∧
    ∀ builder : Http.ClientBuilder,
      (∀ network cancelAt, ∃ launch, Reachable config (fun _ => builder.build) launch ∧
        launch.result? = some (scanNetwork network config builder cancelAt)) ∧
      ∀ launch result, Reachable config (fun _ => builder.build) launch →
        launch.result? = some result →
        ∀ error, result = .error error ↔ builder.build = .error error := by
  refine ⟨fun i error => failsAt, exists_proceeds, fun builder => ⟨?_, ?_⟩⟩
  · exact fun network cancelAt => exists_scanNetwork network config builder cancelAt
  · exact fun launch result h hresult => h.launched.error_iff hresult

/-- Every probe but that of the second worker can be made. -/
def secondFails (k : Nat) : Except String Nat := if k = 1 then .error "no memory" else .ok k

/-- Two workers and nothing to scan. -/
def noHosts : ScanConfig := ⟨[], 2, Nat.two_pos⟩

/-- The cases of the second of two probes that cannot be made, of a scan without hosts, and of
a client that looks for a field whose name is none. -/
theorem factory_failure_atomic_second :
    (Setup.make secondFails 2 = ⟨2, .error "no memory"⟩ ∧
      ∃ launch, Reachable Scan.pairOfWorkers secondFails launch ∧
        launch.result? = some (.error "no memory") ∧ launch.setup.calls = 2 ∧
        launch.scan.Untouched) ∧
    (∃ launch : Launch String Nat, Reachable noHosts .ok launch ∧
      launch.result? = some (.ok launch.scan) ∧ launch.setup = ⟨2, .ok [0, 1]⟩) ∧
    ∀ network cancelAt,
      scanNetwork network noHosts (Http.ClientBuilder.new.setHeader "a b") cancelAt =
        .error (.invalidHeaderName "a b") := by
  refine ⟨?_, ?_, fun network cancelAt => ?_⟩
  · obtain ⟨hfailing, -, -⟩ := factory_failure_atomic Scan.pairOfWorkers secondFails
    have hfails := hfailing 1 "no memory" (by decide) (by decide) rfl
    obtain ⟨launch, hlaunch, hresult⟩ := hfails.fails
    refine ⟨hfails.made, launch, hlaunch, hresult, ?_, hfails.untouched launch hlaunch⟩
    rcases hfails.result launch hlaunch with ⟨hnone, -⟩ | ⟨-, hcalls⟩
    · cases hnone.symm.trans hresult
    · exact hcalls
  · obtain ⟨-, hmaking, -⟩ :=
      factory_failure_atomic noHosts (.ok : Nat → Except String Nat)
    obtain ⟨probes, hproceeds⟩ := hmaking fun _ _ => rfl
    have hrun := Timeline.run_finished noHosts (fun _ => ⟨.panic, 0⟩) none
    refine ⟨_, hproceeds.goes_on _ hrun.reachable, ?_, hproceeds.made.symm.trans rfl⟩
    rw [result?]
    exact if_pos hrun.returned
  · obtain ⟨-, -, hclients⟩ := factory_failure_atomic noHosts secondFails
    obtain ⟨hruns, hiff⟩ := hclients (Http.ClientBuilder.new.setHeader "a b")
    obtain ⟨launch, hlaunch, hresult⟩ := hruns network cancelAt
    exact (hiff launch _ hlaunch hresult _).mpr rfl

end Launch

end HeaderScan
