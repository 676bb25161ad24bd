import PubSub.Simulation.Drivers

/-!
# The batcher of a scenario

A scenario may work on a batcher of its own. Its items say what the handler does with
a batch: the plan of the first item of a batch is the cue of the handler.
-/

namespace PubSub
namespace Simulation
namespace Sim

/-- Carry out what a turn on the scenario's batcher asks for. -/
def performItems : BatchEffect PlannedItem → Sim Unit
  | .startHandler batch => spawn (.handleItems (.starting batch) none)
  | .startLinger wakeAt => spawn (.linger .scenario wakeAt)

/-- Store a turn on the scenario's batcher. -/
def applyItems {Task Result : Type}
    (turn : Turn (Batcher PlannedItem) Task Result (BatchEffect PlannedItem)) : Sim Unit := do
  setBatcher turn.state
  turn.effects.forM performItems

def stepAddItem (label context : String) (task : Batcher.Adding PlannedItem) :
    Sim (Next Activity Unit) := do
  let turn := task.step (← moment) (← isCancelled (.context context)) (← get).batcher
  applyItems turn
  follow turn.next (.addItem label context) fun result => finish label result.line

def addItemNow (item : PlannedItem) : Sim String := do
  match (← get).batcher.accept item.size item with
  | .error error => return error.line
  | .ok (_, dispatch) =>
      applyItems (Batcher.dispatched (← moment) dispatch (.done () : Next Unit Unit))
      return Outcome.line (.ok ())

def stepFlush (label : String) (task : Batcher.Flush) : Sim (Next Activity Unit) := do
  let turn := task.step (← moment) (← get).batcher
  applyItems turn
  follow turn.next (.flush label) fun _ => finish label (Outcome.line (.ok ()))

/-! ## The handler -/

/-- The error of a planned failure: an invalid argument unless it is classified. -/
def plannedError (cue : Cue) (fault : Fault) : Error :=
  match cue.code with
  | none => .invalidArgument fault.message
  | some code => .driver code fault

def beginHandler (call : Batcher.HandlerCall PlannedItem) : Sim Play := do
  note (.batch (call.batch.map fun entry => entry.item.id))
  let first := (call.batch.head?.map Entry.item).getD default
  play first.plan .never

def lookAtHandler (batch : List (Entry PlannedItem)) (running : Option Play) :
    Sim (Answer (Outcome Unit)) := do
  match running with
  | none => return .running
  | some running =>
      match ← lookAtPlay running with
      | .running => return .running
      | .panicked info => return .panicked info
      | .returned result =>
          let first := (batch.head?.map Entry.item).getD default
          let outcome := result.mapError (plannedError running.cue)
          note (.batchDone first.id outcome)
          return .returned outcome

def stepItems (task : Batcher.Handling PlannedItem) (running : Option Play) :
    Sim (Next Activity Unit) := do
  let answer ← lookAtHandler task.batch running
  let turn := task.step answer (← get).batcher
  setBatcher turn.state
  let begun ← turn.effects.mapM beginHandler
  let kept := if turn.next.isWaiting then running else none
  follow turn.next (fun task => .handleItems task (begun.head?.or kept)) fun _ => pure ()

end Sim
end Simulation
end PubSub
