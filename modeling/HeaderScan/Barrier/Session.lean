import HeaderScan.Barrier.Basic

/-!
# Sessions with a completion barrier

A session hands out guards of one barrier through any of its handles, takes them
back, and lets any number of waits go on in any order.
-/

namespace HeaderScan

namespace Barrier

/-- A barrier with its handles, the guards it gave out and the waits for it. -/
structure Session where
  /-- The barrier behind all handles. -/
  barrier : Barrier
  /-- How many handles there are. -/
  handles : Nat
  /-- For each guard that there ever was, whether it is held. -/
  guards : List Bool
  /-- The waits, in the order in which they began. -/
  waits : List Wait

/-- What a session can be told to do. -/
inductive Command where
  /-- Take a guard through this handle. -/
  | register (handle : Nat)
  /-- Make another handle. -/
  | clone (handle : Nat)
  /-- Ask for the count. -/
  | outstanding (handle : Nat)
  /-- Begin to wait. -/
  | wait (handle : Nat)
  /-- Let a wait go on. -/
  | poll (wait : Nat)
  /-- Give a guard back. -/
  | drop (guard : Nat)
  /-- Give a guard back by panicking while it is held. -/
  | panic (guard : Nat)

/-- The answer to a command. -/
inductive Reply where
  /-- A count, or the number of a new guard or handle. -/
  | number (value : Nat)
  /-- A new wait, and whether it is over already. -/
  | began (wait : Nat) (isDone : Bool)
  /-- Whether a wait is over. -/
  | polled (isDone : Bool)
  | dropped
  | panicked
  | noHandle
  | noGuard
  | noWait

namespace Session

/-- A new barrier with one handle. -/
def start : Session := ⟨.new, 1, [], []⟩

/-- Give a held guard back. -/
def giveBack (session : Session) (guard : Nat) (reply : Reply) : Session × Reply :=
  if session.guards.getD guard false then
    ({ session with
        barrier := session.barrier.release
        guards := session.guards.set guard false }, reply)
  else (session, .noGuard)

/-- Carry out a command that needs a handle. -/
def withHandle (session : Session) (handle : Nat) (act : Session × Reply) : Session × Reply :=
  if handle < session.handles then act else (session, .noHandle)

/-- Carry out a command. -/
def step (session : Session) : Command → Session × Reply
  | .register handle =>
    session.withHandle handle
      ({ session with
          barrier := session.barrier.register
          guards := session.guards ++ [true] }, .number session.guards.length)
  | .clone handle =>
    session.withHandle handle
      ({ session with handles := session.handles + 1 }, .number session.handles)
  | .outstanding handle =>
    session.withHandle handle (session, .number session.barrier.outstanding)
  | .wait handle =>
    let wait := session.barrier.wait
    session.withHandle handle
      ({ session with waits := session.waits ++ [wait] },
        .began session.waits.length (wait = .done))
  | .poll index =>
    match session.waits[index]? with
    | none => (session, .noWait)
    | some wait =>
      let wait := session.barrier.poll wait
      ({ session with waits := session.waits.set index wait }, .polled (wait = .done))
  | .drop guard => session.giveBack guard .dropped
  | .panic guard => session.giveBack guard .panicked

end Session

end Barrier

end HeaderScan
