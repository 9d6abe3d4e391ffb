/-!
# Completion barriers

A barrier counts the guards that are held. Whoever waits for the count to reach
zero looks at it, and looks again only when he was notified since; a notification
reaches the waits that had begun before it.
-/

namespace HeaderScan

/-- The count of held guards, and how often it has reached zero. -/
structure Barrier where
  /-- The guards that are held. -/
  outstanding : Nat
  /-- The notifications given so far. -/
  notifications : Nat
deriving DecidableEq

namespace Barrier

/-- A barrier without guards. -/
def new : Barrier := ⟨0, 0⟩

/-- Hand out one more guard. -/
def register (barrier : Barrier) : Barrier :=
  { barrier with outstanding := barrier.outstanding + 1 }

/-- Give one guard back; the last one notifies. -/
def release (barrier : Barrier) : Barrier :=
  ⟨barrier.outstanding - 1,
    if barrier.outstanding = 1 then barrier.notifications + 1 else barrier.notifications⟩

/-- A wait for the count to be zero. -/
inductive Wait where
  /-- Nothing was outstanding when it last looked. -/
  | done
  /-- It looked when this many notifications had been given. -/
  | since (notifications : Nat)
deriving DecidableEq

/-- Look at the count. -/
def look (barrier : Barrier) : Wait :=
  if barrier.outstanding = 0 then .done else .since barrier.notifications

/-- Begin to wait: the first look comes at once. -/
def wait (barrier : Barrier) : Wait := barrier.look

/-- Let a wait go on: it looks again if there was a notification since its last look. -/
def poll (barrier : Barrier) : Wait → Wait
  | .done => .done
  | .since seen => if seen < barrier.notifications then barrier.look else .since seen

end Barrier

end HeaderScan
