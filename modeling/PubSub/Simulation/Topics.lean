import PubSub.Simulation.Drivers

/-!
# Topics of a simulation

One step of each task on a topic: the task of the library takes a turn, the topic is
stored, and what the turn asks for is carried out. A driver call that a turn begins
is kept with the activity until the task no longer waits for it.
-/

namespace PubSub
namespace Simulation
namespace Sim

/-- Carry out what a turn on a topic asks for: the driver call that begins, if one does. -/
def performTopic (index : Nat) : Topic.Effect → Sim (Option UnitCall)
  | .publish event => do
      publish (← topic index).hub event
      return none
  | .batching (.startHandler batch) => do
      spawn (.sendBatch index (.announcing batch) none)
      return none
  | .batching (.startLinger wakeAt) => do
      spawn (.linger (.endpoint (.topic index)) wakeAt)
      return none
  | .sendBatch envelopes => return some (← beginSend index envelopes)
  | .close => return some (← beginClose (.topic index))

/-- Store a turn on a topic: the driver call that begins, if one does. -/
def applyTopic {Task Result : Type} (index : Nat) (turn : Turn Topic Task Result Topic.Effect) :
    Sim (Option UnitCall) := do
  setTopic index turn.state
  return (← turn.effects.filterMapM (performTopic index)).head?

/-- The name of the family of the native error inside an error, or a dash. -/
def familyName (error : Error) : String := (error.cause?.bind Fault.family).getD "-"

/-- The outcome of a call with the family of the native error. -/
def outcomeText (result : Outcome Unit) : String :=
  match result with
  | .ok _ => "ok native=-"
  | .error error => error.line ++ " native=" ++ familyName error

/-- End a call on an endpoint. -/
def finishOn (endpoint : Endpoint) (label result : String) : Sim Unit := do
  finish label result
  release endpoint

def stepSend (label context : String) (index : Nat) (task : Topic.Sender) :
    Sim (Next Activity Unit) := do
  let cancelled ← isCancelled (.context context)
  let turn := task.step (← moment) cancelled (← topic index).topic
  discard <| applyTopic index turn
  follow turn.next (.send label context index) fun result =>
    finishOn (.topic index) label (outcomeText result)

def stepSendBatch (index : Nat) (task : Topic.Handler) (call : Option UnitCall) :
    Sim (Next Activity Unit) := do
  let answer ← lookAtOptional call
  let turn := task.step (← moment) answer (← topic index).topic
  let begun ← applyTopic index turn
  let kept := if turn.next.isWaiting then call else none
  follow turn.next (fun task => .sendBatch index task (begun.or kept)) fun _ => pure ()

end Sim
end Simulation
end PubSub
