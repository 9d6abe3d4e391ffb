import HeaderScan.Pool.Basic
import HeaderScan.ScanConfig
import HeaderScan.Summary

/-!
# Scans

A scan starts a pool of workers, feeds it every configured host in order,
collects the responses, and returns once all workers have let go of their guards.
Feed, workers and collector move on their own; a scan is the system of all their
single steps, in whatever order they happen.
-/

namespace HeaderScan

/-- The feed puts the hosts of a scan into the queue. -/
inductive Feed where
  /-- About to look at the token before it offers the next host. -/
  | looking (rest : List Host)
  /-- Waiting for room for a host or the cancellation. -/
  | offering (host : Host) (rest : List Host)
  /-- About to close the queue; these hosts are not offered any more. -/
  | ending (rest : List Host)
  /-- The queue is closed. -/
  | done (rest : List Host)
deriving DecidableEq

namespace Feed

/-- The hosts that were not put into the queue, in order. -/
def remaining : Feed → List Host
  | looking rest | ending rest | done rest => rest
  | offering host rest => host :: rest

/-- The feed has closed the queue. -/
def isDone : Feed → Bool
  | done _ => true
  | _ => false

/-- A bound on the moves that are left to the feed and, for the hosts that it
still has, to the workers. -/
def movesLeft : Feed → Nat
  | looking rest => 9 * rest.length + 2
  | offering _ rest => 9 * rest.length + 10
  | ending _ => 1
  | done _ => 0

end Feed

/-- How far a scan has come. -/
inductive Stage where
  /-- So many workers are still to be started. -/
  | starting (left : Nat)
  /-- Feed and collector are at work. -/
  | running
  /-- All responses are collected; workers may still hold their guards. -/
  | awaiting (wait : Barrier.Wait)
  /-- The scan is over. -/
  | returned
deriving DecidableEq

/-- The state of a scan. -/
structure Scan where
  /-- The workers and what they share. -/
  pool : Pool
  /-- The feed. -/
  feed : Feed
  /-- The responses that were reported, in order. -/
  reported : List Delivery
  /-- The counts of the responses reported so far. -/
  summary : Summary
  /-- The collector still waits for responses. -/
  isCollecting : Bool
  /-- How far the scan has come. -/
  stage : Stage

/-- A step of a scan. -/
inductive Step where
  /-- Start one more worker. -/
  | spawn
  /-- All workers are started: begin to feed and to collect. -/
  | run
  /-- A worker moves. -/
  | worker (w : Nat) (move : Move)
  /-- The token is cancelled from outside. -/
  | cancel
  /-- The feed looks at the token. -/
  | look
  /-- The feed puts its host into the queue, or ends because nobody is left to take it. -/
  | offer
  /-- The feed ends because of the cancellation. -/
  | giveUp
  /-- The feed closes the queue. -/
  | close
  /-- The collector reports a response, or ends because there will be none. -/
  | collect
  /-- Feed and collector have ended: begin to wait for the guards. -/
  | join
  /-- The wait for the guards goes on. -/
  | wake
deriving DecidableEq

namespace Scan

/-- A scan that is about to start its workers. -/
def start (config : ScanConfig) : Scan :=
  ⟨.new config.queueCapacity config.workers, .looking config.hosts, [], .empty, true,
    .starting config.workers⟩

/-- The responses reported so far. -/
def responses (scan : Scan) : List Response := scan.reported.map (·.response)

/-- The feed looks at the token before it offers the next host. -/
def look? (scan : Scan) : Option Scan :=
  match scan.feed with
  | .looking [] => some { scan with feed := .ending [] }
  | .looking (host :: rest) =>
    if scan.pool.isCancelled then some { scan with feed := .ending (host :: rest) }
    else some { scan with feed := .offering host rest }
  | _ => none

/-- The feed puts its host into the queue. -/
def offer? (scan : Scan) : Option Scan :=
  match scan.feed with
  | .offering host rest =>
    match scan.pool.queue.offer host with
    | .accepted queue => some { scan with pool := { scan.pool with queue }, feed := .looking rest }
    | .refused => some { scan with feed := .ending (host :: rest) }
    | .full => none
  | _ => none

/-- The feed ends because of the cancellation. -/
def giveUp? (scan : Scan) : Option Scan :=
  match scan.feed with
  | .offering host rest =>
    if scan.pool.isCancelled then some { scan with feed := .ending (host :: rest) } else none
  | _ => none

/-- The feed closes the queue. -/
def close? (scan : Scan) : Option Scan :=
  match scan.feed with
  | .ending rest =>
    some { scan with pool := { scan.pool with queue := scan.pool.queue.close }, feed := .done rest }
  | _ => none

/-- The collector reports the next response, or ends. -/
def collect? (scan : Scan) : Option Scan :=
  if scan.isCollecting then
    match scan.pool.results.receive with
    | .item delivery results =>
      some { scan with
        pool := { scan.pool with results }
        reported := scan.reported ++ [delivery]
        summary := scan.summary.add delivery.response.status }
    | .closed => some { scan with isCollecting := false }
    | .empty => none
  else none

/-- The stage after a look at the barrier. -/
def Stage.ofWait : Barrier.Wait → Stage
  | .done => .returned
  | wait => .awaiting wait

/-- The scan after a step, if that step is possible. -/
def step? (scan : Scan) : Step → Option Scan
  | .spawn =>
    match scan.stage with
    | .starting (left + 1) => some { scan with pool := scan.pool.spawn, stage := .starting left }
    | _ => none
  | .run =>
    match scan.stage with
    | .starting 0 => some { scan with pool := scan.pool.release, stage := .running }
    | _ => none
  | .worker w move => (scan.pool.move? w move).map fun pool => { scan with pool }
  | .cancel => if scan.pool.isCancelled then none else some { scan with pool := scan.pool.cancel }
  | .look => if scan.stage = .running then scan.look? else none
  | .offer => if scan.stage = .running then scan.offer? else none
  | .giveUp => if scan.stage = .running then scan.giveUp? else none
  | .close => if scan.stage = .running then scan.close? else none
  | .collect => if scan.stage = .running then scan.collect? else none
  | .join =>
    if scan.stage = .running ∧ scan.feed.isDone ∧ !scan.isCollecting then
      some { scan with stage := Stage.ofWait scan.pool.barrier.wait }
    else none
  | .wake =>
    match scan.stage with
    | .awaiting wait =>
      let next := scan.pool.barrier.poll wait
      if next = wait then none else some { scan with stage := Stage.ofWait next }
    | _ => none

/-- A scan in this state can come about from the start of a configuration. -/
inductive Reachable (config : ScanConfig) : Scan → Prop where
  | start : Reachable config (.start config)
  | step {before after : Scan} (step : Step) :
      Reachable config before → before.step? step = some after → Reachable config after

end Scan

end HeaderScan
