import PubSub.Simulation.World

/-!
# Hubs of a simulation

One step of the listener of a hub, of the workers of its subscribers, of an observer
of its bus, and of its closing. Simulated subscribers take some time for an event and
may end abnormally at one kind of event.
-/

namespace PubSub
namespace Simulation
namespace Sim

/-- Carry out what a step on a hub asks for. -/
def performHub (place : Nat) : HubEffect → Sim Unit
  | .publish event => publish place event
  | .signal happened => raise (.hub place happened)

/-- Store a hub and carry out what the step that led to it asks for. -/
def applyHub (place : Nat) (hub : Hub) (effects : List HubEffect) : Sim Unit := do
  setHub place hub
  for effect in effects do performHub place effect

/-- Offer an event to the subscribers of a hub. -/
def emit (place : Nat) (event : Event) : Sim Unit := do
  let (after, effects) := (← hub place).hub.emit event
  applyHub place after effects

def stepListener (place : Nat) : Sim (Next Activity Unit) := do
  let turn := (← hub place).hub.listenerStep
  applyHub place turn.state turn.effects
  follow turn.next (fun _ => .listener place) fun _ => pure ()

/-- What a simulated subscriber has come to about the event it handles. -/
def lookAtSubscriber (plan : SubscriberPlan) (task : Hub.Worker) (wakeAt : Nat) :
    Sim (Answer Unit) := do
  match task with
  | .idle => return .running
  | .handling event =>
      if (← get).now < wakeAt then return .running
      note (.handled plan.name event)
      if plan.panicsOn = some event.kind then return .panicked plan.panicInfo
      return .returned ()

/-- Carry out what a turn of a worker asks for: the time at which the subscriber is done. -/
def performWorker (place : Nat) (plan : SubscriberPlan) (wakeAt : Nat) :
    Hub.WorkerEffect → Sim Nat
  | .onHub effect => do
      performHub place effect
      return wakeAt
  | .handle _ => return (← get).now + plan.workMillis * 1000000

def stepSubscriber
    (place index : Nat)
    (plan : SubscriberPlan)
    (task : Hub.Worker)
    (wakeAt : Nat) : Sim (Next Activity Unit) := do
  let answer ← lookAtSubscriber plan task wakeAt
  let turn := task.step index answer (← hub place).hub
  setHub place turn.state
  let wakeAt ← turn.effects.foldlM (performWorker place plan) wakeAt
  follow turn.next (fun task => .subscriber place index plan task wakeAt) fun _ => pure ()

def stepObserver (place : Nat) : Sim (Next Activity Unit) := do
  let part ← hub place
  let (received, bus) := part.hub.bus.receive .observer
  setHub place { part.hub with bus }
  match received with
  | .item event =>
      note (.observed part.name event)
      return .continue (.observer place)
  | .lagged _ => return .continue (.observer place)
  | .empty => return .wait (.observer place)
  | .closed => return .done ()

/-- One step of the closing of a hub. -/
def stepEnding
    (place : Nat)
    (task : Hub.Ending)
    (wrap : Hub.Ending → Activity)
    (finish : Sim Unit) : Sim (Next Activity Unit) := do
  let turn := task.step (← hub place).hub
  applyHub place turn.state turn.effects
  follow turn.next wrap fun _ => finish

end Sim
end Simulation
end PubSub
