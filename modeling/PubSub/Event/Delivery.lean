import PubSub.Event.Fanout
import PubSub.Task

/-!
# Tasks of a hub

The listener of a hub takes events off the bus and emits them to the subscribers. A
worker gives a subscriber its events, one after the other; a subscriber that ends
abnormally is reported on the bus and gets the next event all the same. A closing
stops the listener, waits for it, closes the queues, and waits for every worker.

The effects of these tasks are events for the bus, signals, which wake other tasks, and
calls of subscribers.
-/

namespace PubSub
namespace Hub

/-! ## The listener -/

/-- The listener leaves the bus. -/
def leave (hub : Hub) : Turn Hub Unit Unit HubEffect :=
  { state := hub.endListener, next := .done (), effects := [.signal .listenerEnded] }

/-- A turn of the listener. Events on the bus count before the wish to stop. -/
def listenerStep (hub : Hub) : Turn Hub Unit Unit HubEffect :=
  let (received, bus) := hub.bus.receive .listener
  let after : Hub := { hub with bus }
  match received with
  | .item event =>
      let (emitted, effects) := after.emit event
      { state := emitted, next := .continue (), effects }
  | .lagged _ => { state := after, next := .continue () }
  | .empty => if after.isStopped then after.leave else { state := after, next := .wait () }
  | .closed => after.leave

/-! ## Workers -/

/-- Where a worker stands. -/
inductive Worker
  | idle
  | handling (event : Event)
  deriving DecidableEq

/-- What a worker asks for. -/
inductive WorkerEffect
  | onHub (effect : HubEffect)
  /-- Give an event to the subscriber. -/
  | handle (event : Event)

/-- A turn of the worker of a subscriber, which has come to an answer about the event it
handles. -/
def Worker.step (place : Nat) (answer : Answer Unit) (hub : Hub) :
    Worker → Turn Hub Worker Unit WorkerEffect
  | .idle =>
      match hub.queues[place]? with
      | none => { state := hub, next := .done () }
      | some queue =>
          match queue.take? with
          | some (event, rest) =>
              { state := hub.setQueue place rest
                next := .continue (.handling event)
                effects := [.handle event] }
          | none =>
              if queue.isFinished then
                { state := hub.endWorker place
                  next := .done ()
                  effects := [.onHub (.signal (.workerEnded place))] }
              else { state := hub, next := .wait .idle }
  | .handling event =>
      match answer with
      | .running => { state := hub, next := .wait (.handling event) }
      | .returned _ => { state := hub, next := .continue .idle }
      | .panicked info =>
          let name := (hub.queues[place]?.map SubscriberQueue.name).getD ""
          { state := hub
            next := .continue .idle
            effects := [.onHub (.publish (Event.subscriberPanicked name info))] }

/-! ## Closing -/

/-- Where the closing of a hub stands. -/
inductive Ending
  | begin
  /-- Waits for the listener. -/
  | stopping
  /-- The listener is gone. -/
  | closingQueues
  /-- Waits for the worker of a subscriber, and then for those after it. -/
  | draining (subscriber : Nat)
  deriving DecidableEq

/-- A turn of the closing of a hub; only the first closing has anything to do. -/
def Ending.step (hub : Hub) : Ending → Turn Hub Ending Unit HubEffect
  | .begin =>
      match hub.stop with
      | (true, after) =>
          { state := after, next := .continue .stopping, effects := [.signal .stopped] }
      | (false, after) => { state := after, next := .done () }
  | .stopping =>
      { state := hub
        next := if hub.listenerEnded then .continue .closingQueues else .wait .stopping }
  | .closingQueues =>
      { state := hub.closeQueues
        next := .continue (.draining 0)
        effects := (List.range hub.queues.length).map fun place => .signal (.queued place) }
  | .draining subscriber =>
      { state := hub
        next :=
          if hub.queues.length ≤ subscriber then .done ()
          else if hub.endedWorkers.contains subscriber then .continue (.draining (subscriber + 1))
          else .wait (.draining subscriber) }

end Hub
end PubSub
