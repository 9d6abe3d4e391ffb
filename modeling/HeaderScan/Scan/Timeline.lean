import HeaderScan.Pool.Polling
import HeaderScan.Scan.Basic

/-!
# Scans in time

A timeline runs a scan whose probes take a known time. Time passes only when
nothing else can happen: then it goes on to the next moment at which a probe is
due or the token is cancelled.
-/

namespace HeaderScan

/-- How the probe of a host behaves. -/
structure ProbePlan where
  /-- What it comes to. -/
  result : ProbeResult
  /-- How many milliseconds it takes. -/
  delay : Nat

/-- A scan at a moment of time. -/
structure Timeline where
  /-- The scan. -/
  scan : Scan
  /-- The milliseconds since it began. -/
  now : Nat
  /-- The probes in flight: the worker, and when the probe is due. -/
  due : List (Nat × Nat)
  /-- The responses that were reported, and when. -/
  events : List (Nat × Response)
  /-- The most probes that were in flight at once. -/
  maxInFlight : Nat

namespace Timeline

/-- A scan that begins now. -/
def start (config : ScanConfig) : Timeline := ⟨.start config, 0, [], [], 0⟩

/-- What a worker is probing. -/
def probed? (timeline : Timeline) (w : Nat) : Option Host :=
  timeline.scan.pool.workers[w]?.bind (·.phase.inFlight?)

/-- What the probe of a worker has to say now. -/
def result? (timeline : Timeline) (plan : Host → ProbePlan) (w : Nat) : Option ProbeResult :=
  match timeline.probed? w, timeline.due.lookup w with
  | some host, some time => if time ≤ timeline.now then some (plan host).result else none
  | _, _ => none

/-- Keep account of the probe of a worker that has just moved. -/
def noteProbe (timeline : Timeline) (plan : Host → ProbePlan) (w : Nat) : Timeline :=
  match timeline.probed? w with
  | none => { timeline with due := timeline.due.filter (·.1 != w) }
  | some host =>
    let due := timeline.due ++ [(w, timeline.now + (plan host).delay)]
    { timeline with due, maxInFlight := max timeline.maxInFlight due.length }

/-- Let a worker run until it can move no more, within so many moves; whether it moved. -/
def pollWorker (plan : Host → ProbePlan) (w : Nat) : Nat → Timeline → Timeline × Bool
  | 0, timeline => (timeline, false)
  | moves + 1, timeline =>
    match timeline.scan.pool.advance? (timeline.result? plan w) w with
    | none => (timeline, false)
    | some pool =>
      let moved := { timeline with scan := { timeline.scan with pool } }
      ((pollWorker plan w moves (moved.noteProbe plan w)).1, true)

/-- Let the workers with these numbers run one after the other; whether one moved. -/
def pollWorkers (plan : Host → ProbePlan) : List Nat → Timeline → Timeline × Bool
  | [], timeline => (timeline, false)
  | w :: rest, timeline =>
    let (timeline, moved) := pollWorker plan w (timeline.scan.pool.movesLeft + 1) timeline
    let (timeline, others) := pollWorkers plan rest timeline
    (timeline, moved || others)

/-- Note the responses that a step has reported. -/
def noteReports (timeline : Timeline) (scan : Scan) : Timeline :=
  let reported := scan.reported.drop timeline.scan.reported.length
  { timeline with
    scan
    events := timeline.events ++ reported.map fun delivery => (timeline.now, delivery.response) }

/-- Take each of these steps that is possible, in order; whether one was. -/
def takeSteps : List Step → Timeline → Timeline × Bool
  | [], timeline => (timeline, false)
  | step :: rest, timeline =>
    match timeline.scan.step? step with
    | none => takeSteps rest timeline
    | some scan => ((takeSteps rest (timeline.noteReports scan)).1, true)

/-- The steps of a scan that no worker makes; a cancellation comes before an offer. -/
def ownSteps : List Step := [.spawn, .run, .look, .giveUp, .offer, .close, .collect, .join, .wake]

/-- A bound on the steps that are left. -/
def stepsLeft (timeline : Timeline) : Nat :=
  let scan := timeline.scan
  let starts := match scan.stage with
    | .starting left => 7 * left
    | _ => 0
  scan.pool.movesLeft + scan.feed.movesLeft + starts + 10

/-- Let everything happen that can happen now, within so many rounds. -/
def settle (plan : Host → ProbePlan) : Nat → Timeline → Timeline
  | 0, timeline => timeline
  | rounds + 1, timeline =>
    let (timeline, stepped) := takeSteps ownSteps timeline
    let workers := List.range timeline.scan.pool.workers.length
    let (timeline, moved) := pollWorkers plan workers timeline
    if stepped || moved then settle plan rounds timeline else timeline

/-- Cancel the token. -/
def cancel (timeline : Timeline) : Timeline :=
  { timeline with scan := (timeline.scan.step? .cancel).getD timeline.scan }

/-- Cancel the token if it is time to. -/
def heed (cancelAt : Option Nat) (timeline : Timeline) : Timeline :=
  if !timeline.scan.pool.isCancelled && cancelAt.any (· ≤ timeline.now) then timeline.cancel
  else timeline

/-- Let everything happen that happens at this moment. -/
def moment (plan : Host → ProbePlan) (cancelAt : Option Nat) (timeline : Timeline) : Timeline :=
  let timeline := timeline.heed cancelAt
  settle plan timeline.stepsLeft timeline

/-- The next moment at which a probe is due. -/
def nextDue? (timeline : Timeline) : Option Nat := (timeline.due.map Prod.snd).min?

/-- The next moment at which something happens. -/
def next? (cancelAt : Option Nat) (timeline : Timeline) : Option Nat :=
  match timeline.nextDue?, cancelAt.filter (timeline.now < ·) with
  | some due, some time => some (min due time)
  | some due, none => some due
  | none, later => later

/-- Settle, then let time pass to the next moment, within so many moments. -/
def runFrom (plan : Host → ProbePlan) (cancelAt : Option Nat) : Nat → Timeline → Timeline
  | 0, timeline => timeline
  | moments + 1, timeline =>
    let settled := timeline.moment plan cancelAt
    if settled.scan.stage = .returned then settled
    else
      match settled.next? cancelAt with
      | some time => runFrom plan cancelAt moments { settled with now := time }
      | none => settled

/-- Run a scan to its end. Every moment but the cancellation ends a probe. -/
def run (config : ScanConfig) (plan : Host → ProbePlan) (cancelAt : Option Nat) : Timeline :=
  runFrom plan cancelAt (config.hosts.length + 2) (start config)

/-- The responses that were reported, ordered by time and then by their lines. -/
def history (timeline : Timeline) : List (Nat × String) :=
  (timeline.events.map fun event => (event.1, event.2.line)).mergeSort fun a b =>
    a.1 < b.1 || (a.1 == b.1 && (compare a.2 b.2).isLE)

/-- How many probes were started for each host, in the order of the first of them. -/
def calls (timeline : Timeline) : List (Host × Nat) :=
  let called := timeline.scan.pool.ledger.called.map Prod.snd
  called.eraseDups.map fun host => (host, called.count host)

end Timeline

end HeaderScan
