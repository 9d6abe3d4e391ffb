/-!
# Bounded work queues

A queue holds a bounded number of items, first in first out. One producer puts
items in and any number of consumers share what comes out. An item can be
offered while a consumer is left; taking from a queue whose producer is gone
ends once it is drained.
-/

namespace HeaderScan

/-- A first-in first-out queue with limited room. -/
structure WorkQueue (α : Type) where
  /-- How many items fit. -/
  capacity : Nat
  /-- The buffered items, front first. -/
  items : List α
  /-- More items may come: the producer has neither closed the queue nor gone. -/
  isOpen : Bool
  /-- How many consumers are left. -/
  consumers : Nat

namespace WorkQueue

variable {α : Type}

/-- An empty queue with one consumer. There is always room for one item. -/
def bounded (capacity : Nat) : WorkQueue α := ⟨max capacity 1, [], true, 1⟩

/-- The answer to offering an item. -/
inductive Offer (α : Type) where
  /-- The item is the last of this queue now. -/
  | accepted (queue : WorkQueue α)
  /-- There is no room yet. -/
  | full
  /-- Nobody is left to take the item. -/
  | refused

/-- Put an item at the end if there is room and a consumer. -/
def offer (queue : WorkQueue α) (item : α) : Offer α :=
  if queue.consumers = 0 then .refused
  else if queue.items.length < queue.capacity then
    .accepted { queue with items := queue.items ++ [item] }
  else .full

/-- The answer to asking for an item. -/
inductive Take (α : Type) where
  /-- The first item and the queue without it. -/
  | item (first : α) (queue : WorkQueue α)
  /-- Nothing is there yet. -/
  | empty
  /-- Nothing is there and nothing will come. -/
  | drained

/-- Take the first item. -/
def take (queue : WorkQueue α) : Take α :=
  match queue.items with
  | first :: rest => .item first { queue with items := rest }
  | [] => if queue.isOpen then .empty else .drained

/-- The producer is done: nothing is put in any more. -/
def close (queue : WorkQueue α) : WorkQueue α := { queue with isOpen := false }

/-- One more consumer shares the queue. -/
def addConsumer (queue : WorkQueue α) : WorkQueue α :=
  { queue with consumers := queue.consumers + 1 }

/-- One consumer has gone. -/
def dropConsumer (queue : WorkQueue α) : WorkQueue α :=
  { queue with consumers := queue.consumers - 1 }

end WorkQueue

end HeaderScan
