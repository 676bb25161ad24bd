/-!
# Broadcast with a bounded memory

Every receiver sees the items sent after it subscribed, in the order in which
they were sent. Only the last `capacity` items are kept: a receiver that fell
further behind is told once how many items it missed and goes on with the oldest
one that is kept.

The state counts what was sent and keeps the newest items; a receiver is its
position in the sequence of all items.
-/

namespace PubSub

/-- A broadcast of items of type `Item` to receivers named by `Key`. -/
structure Broadcast (Key Item : Type) where
  /-- How many items are kept; a power of two. -/
  capacity : Nat
  /-- How many items were sent. -/
  sent : Nat := 0
  /-- The newest items, oldest first. -/
  kept : List Item := []
  /-- Each receiver with the number of items it has passed. -/
  receivers : List (Key × Nat) := []
  /-- Whether someone may still send. -/
  isOpen : Bool := true
  deriving Inhabited

/-- What a receiver gets when it asks for the next item. -/
inductive Received (Item : Type)
  | item (value : Item)
  /-- Nothing new. -/
  | empty
  /-- Nothing new, and nothing will come. -/
  | closed
  /-- So many items were missed. -/
  | lagged (missed : Nat)
  deriving DecidableEq

namespace Broadcast

variable {Key Item : Type}

/-- A broadcast that keeps at least `requested` items, and at least one. -/
def create (requested : Nat) : Broadcast Key Item :=
  { capacity := (max requested 1).nextPowerOfTwo }

def receiverCount (channel : Broadcast Key Item) : Nat := channel.receivers.length

/-- No one will send any more. -/
def close (channel : Broadcast Key Item) : Broadcast Key Item :=
  { channel with isOpen := false }

/-- Send an item to every receiver; without receivers it is lost. -/
def publish (channel : Broadcast Key Item) (item : Item) : Broadcast Key Item :=
  if channel.receivers.isEmpty then channel
  else
    let kept := channel.kept ++ [item]
    { channel with
      sent := channel.sent + 1
      kept := kept.drop (kept.length - channel.capacity) }

def oldest (channel : Broadcast Key Item) : Nat := channel.sent - channel.kept.length

variable [DecidableEq Key]

def position? (channel : Broadcast Key Item) (key : Key) : Option Nat :=
  channel.receivers.lookup key

/-- Forget a receiver. -/
def unsubscribe (channel : Broadcast Key Item) (key : Key) : Broadcast Key Item :=
  { channel with receivers := channel.receivers.filter (·.1 ≠ key) }

/-- A receiver of what is sent from now on. -/
def subscribe (channel : Broadcast Key Item) (key : Key) : Broadcast Key Item :=
  let channel := channel.unsubscribe key
  { channel with receivers := channel.receivers ++ [(key, channel.sent)] }

def moveTo (channel : Broadcast Key Item) (key : Key) (position : Nat) : Broadcast Key Item :=
  { channel with
    receivers := channel.receivers.map fun receiver =>
      if receiver.1 = key then (key, position) else receiver }

/-- The next thing for a receiver, and the channel afterwards. -/
def receive
    (channel : Broadcast Key Item)
    (key : Key) : Received Item × Broadcast Key Item :=
  match channel.position? key with
  | none => (.closed, channel)
  | some position =>
      if position < channel.oldest then
        (.lagged (channel.oldest - position), channel.moveTo key channel.oldest)
      else
        match channel.kept[position - channel.oldest]? with
        | some item => (.item item, channel.moveTo key (position + 1))
        | none => (if channel.isOpen then .empty else .closed, channel)

end Broadcast
end PubSub
