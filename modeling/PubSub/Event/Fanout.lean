import PubSub.Event.Basic
import PubSub.Event.Broadcast

/-!
# Fan-out of events to subscribers

Events are published on a bus. A listener takes them off the bus and offers each
to every subscriber. A subscriber has a bounded queue of its own: an event that
does not fit is lost for this subscriber only, and the loss is published as an
event, unless the lost event reports a loss itself.

The hub is the bus of one owner with the queues of its subscribers. Closing it
stops the listener once the bus is empty; then the queues are closed, and every
subscriber handles what it still has.
-/

namespace PubSub

/-- The bounded queue of one subscriber. -/
structure SubscriberQueue where
  name : String
  capacity : Nat
  /-- Events that the subscriber has not begun to handle, oldest first. -/
  events : List Event := []
  /-- Whether more events may come. -/
  isOpen : Bool := true
  deriving DecidableEq

namespace SubscriberQueue

/-- Capacity of a queue whose subscriber asks for none. -/
def standardCapacity : Nat := 1024

/-- A queue for at least one event. -/
def create (name : String) (capacity : Nat) : SubscriberQueue :=
  { name, capacity := max capacity 1 }

/-- Offer an event: the queue with it, or why it does not take it. -/
def offer (queue : SubscriberQueue) (event : Event) : Except String SubscriberQueue :=
  if !queue.isOpen then .error "closed"
  else if queue.capacity ≤ queue.events.length then .error "full"
  else .ok { queue with events := queue.events ++ [event] }

/-- The event the subscriber handles next, and the queue without it. -/
def take? (queue : SubscriberQueue) : Option (Event × SubscriberQueue) :=
  match queue.events with
  | [] => none
  | event :: rest => some (event, { queue with events := rest })

/-- Whether the subscriber has nothing to do and nothing to wait for. -/
def isFinished (queue : SubscriberQueue) : Bool := !queue.isOpen && queue.events.isEmpty

/-- Let no more events in. -/
def close (queue : SubscriberQueue) : SubscriberQueue := { queue with isOpen := false }

end SubscriberQueue

/-- Who reads a bus. -/
inductive BusReader
  /-- An observer outside the hub. -/
  | observer
  /-- The listener that feeds the subscribers. -/
  | listener
  deriving DecidableEq

/-- What happens in a hub that someone may wait for. -/
inductive HubSignal
  | published
  /-- A subscriber got an event, or its queue was closed. -/
  | queued (subscriber : Nat)
  | stopped
  | listenerEnded
  | workerEnded (subscriber : Nat)
  deriving DecidableEq

/-- What a step on a hub asks for. -/
inductive HubEffect
  /-- Put an event on the bus. -/
  | publish (event : Event)
  | signal (raised : HubSignal)
  deriving DecidableEq

/-- The bus of one owner with the queues of its subscribers. -/
structure Hub where
  bus : Broadcast BusReader Event
  queues : List SubscriberQueue := []
  /-- Whether the listener has to be stopped by whoever closes the hub. -/
  isListening : Bool := false
  /-- Whether the listener has been asked to stop. -/
  isStopped : Bool := false
  listenerEnded : Bool := false
  endedWorkers : List Nat := []
  deriving Inhabited

namespace Hub

def create (busCapacity : Nat) (queues : List SubscriberQueue) : Hub :=
  let bus : Broadcast BusReader Event := Broadcast.create busCapacity
  if queues.isEmpty then { bus }
  else { bus := bus.subscribe .listener, queues, isListening := true }

def publish (hub : Hub) (event : Event) : Hub := { hub with bus := hub.bus.publish event }

/-- Offer an event to every queue: the queues afterwards, and for each queue why it did not
take the event, if it did not. -/
def offerAll (event : Event) : List SubscriberQueue → List SubscriberQueue × List (Option Event)
  | [] => ([], [])
  | queue :: rest =>
      let later := offerAll event rest
      match queue.offer event with
      | .ok taken => (taken :: later.1, none :: later.2)
      | .error reason =>
          (queue :: later.1, some (Event.subscriberOverflow queue.name reason) :: later.2)

/-- Report what became of an event that was offered to the subscribers from a place on. The
loss of an event that reports a loss is not published. -/
def report (quiet : Bool) : (place : Nat) → List (Option Event) → List HubEffect
  | _, [] => []
  | place, none :: rest => .signal (.queued place) :: report quiet (place + 1) rest
  | place, some loss :: rest =>
      if quiet then report quiet (place + 1) rest
      else .publish loss :: report quiet (place + 1) rest

/-- Offer an event to every subscriber and publish the losses. -/
def emit (hub : Hub) (event : Event) : Hub × List HubEffect :=
  let offered := offerAll event hub.queues
  ({ hub with queues := offered.1 }, report event.isOverflow 0 offered.2)

def setQueue (hub : Hub) (index : Nat) (queue : SubscriberQueue) : Hub :=
  { hub with queues := hub.queues.set index queue }

/-- Ask the listener to stop; the first to ask is told to wait for it. -/
def stop (hub : Hub) : Bool × Hub :=
  if hub.isListening then (true, { hub with isListening := false, isStopped := true })
  else (false, hub)

/-- The listener leaves the bus. -/
def endListener (hub : Hub) : Hub :=
  { hub with bus := hub.bus.unsubscribe .listener, listenerEnded := true }

/-- Let no more events into the queues. -/
def closeQueues (hub : Hub) : Hub := { hub with queues := hub.queues.map SubscriberQueue.close }

/-- The work of a subscriber has ended. -/
def endWorker (hub : Hub) (index : Nat) : Hub :=
  { hub with endedWorkers := index :: hub.endedWorkers }

end Hub
end PubSub
