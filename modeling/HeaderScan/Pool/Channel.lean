/-!
# Result channels

A result channel has a bounded number of slots, any number of senders and one
receiver. Senders that want a slot stand in line, and a free slot belongs to the
first of the line: a sender may send when more slots are free than others stand
before it.
-/

namespace HeaderScan

/-- A channel with limited room; senders in line are known by their number. -/
structure Channel (α : Type) where
  /-- How many items fit. -/
  slots : Nat
  /-- The items that were sent and not received, oldest first. -/
  items : List α
  /-- The senders that want a slot, first come first. -/
  line : List Nat
  /-- How many senders are left. -/
  senders : Nat
  /-- The receiver is left. -/
  hasReceiver : Bool

namespace Channel

variable {α : Type}

/-- An empty channel with its receiver and one sender. -/
def withSlots (slots : Nat) : Channel α := ⟨slots, [], [], 1, true⟩

/-- The number of slots that hold nothing. -/
def free (channel : Channel α) : Nat := channel.slots - channel.items.length

/-- A sender goes to the end of the line. -/
def lineUp (channel : Channel α) (sender : Nat) : Channel α :=
  { channel with line := channel.line ++ [sender] }

/-- A sender leaves the line. -/
def stepOut (channel : Channel α) (sender : Nat) : Channel α :=
  { channel with line := channel.line.erase sender }

/-- The answer to sending an item. -/
inductive Sending (α : Type) where
  /-- The item is in the channel; the sender has left the line. -/
  | sent (channel : Channel α)
  /-- No slot is free for this sender yet. -/
  | full
  /-- Nobody will receive; the sender has left the line. -/
  | refused (channel : Channel α)

/-- Send an item from the line. -/
def send (channel : Channel α) (sender : Nat) (item : α) : Sending α :=
  if !channel.hasReceiver then .refused (channel.stepOut sender)
  else if channel.line.idxOf sender < channel.free then
    .sent { channel.stepOut sender with items := channel.items ++ [item] }
  else .full

/-- The answer to asking for an item. -/
inductive Receiving (α : Type) where
  /-- The oldest item and the channel without it. -/
  | item (first : α) (channel : Channel α)
  /-- Nothing is there yet. -/
  | empty
  /-- Nothing is there and nobody is left to send. -/
  | closed

/-- Receive the oldest item. -/
def receive (channel : Channel α) : Receiving α :=
  match channel.items with
  | first :: rest => .item first { channel with items := rest }
  | [] => if channel.senders = 0 then .closed else .empty

/-- One more sender shares the channel. -/
def addSender (channel : Channel α) : Channel α := { channel with senders := channel.senders + 1 }

/-- One sender has gone. -/
def dropSender (channel : Channel α) : Channel α := { channel with senders := channel.senders - 1 }

/-- The receiver has gone, and with it what it did not receive. -/
def dropReceiver (channel : Channel α) : Channel α :=
  { channel with items := [], hasReceiver := false }

end Channel

end HeaderScan
