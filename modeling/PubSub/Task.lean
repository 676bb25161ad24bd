import PubSub.Retry.Jitter

/-!
# Tasks

A task is a value that says where an activity stands. It advances in turns. A turn
is one uninterrupted step: it reads and changes the state that several tasks share,
asks the surroundings for effects, and says how the task goes on. Turns of different
tasks on one state may follow each other in any order.

A call of a driver or of a handler is an effect. The task does not wait inside the
turn that begins the call; at every later turn it is told what the call has come to.
-/

namespace PubSub

/-- What a task finds around it when it takes a turn. -/
structure Moment where
  /-- Time in nanoseconds. -/
  now : Nat
  /-- Whether a task that finds both its context cancelled and what it waited for at hand
  attends to the context. -/
  contextFirst : Bool
  pick : Delays → Duration

/-- What a call has come to. -/
inductive Answer (Result : Type)
  | running
  | returned (result : Result)
  /-- The call ended abnormally. -/
  | panicked (info : String)

/-- How a task goes on after a turn. -/
inductive Next (Task Result : Type)
  /-- It takes another turn at once. -/
  | continue (task : Task)
  /-- It takes another turn when something has happened that it waits for. -/
  | wait (task : Task)
  | done (result : Result)

namespace Next

variable {Task Result : Type}

def isWaiting : Next Task Result → Bool
  | .wait _ => true
  | _ => false

/-- Whether a task that takes a turn goes on to wait where it stands. -/
def staysAt [DecidableEq Task] (task : Task) : Next Task Result → Bool
  | .wait later => later = task
  | _ => false

theorem staysAt_eq_true_iff [DecidableEq Task] {task : Task} {next : Next Task Result} :
    next.staysAt task = true ↔ next = .wait task := by
  cases next <;> simp [staysAt]

/-- The task that goes on, if one does. -/
def tasks : Next Task Result → List Task
  | .continue task => [task]
  | .wait task => [task]
  | .done _ => []

/-- The same with the task and its result inside larger ones. -/
def map {Outer Whole : Type} (task : Task → Outer) (result : Result → Whole) :
    Next Task Result → Next Outer Whole
  | .continue inner => .continue (task inner)
  | .wait inner => .wait (task inner)
  | .done inner => .done (result inner)

end Next

/-- A turn of a task. -/
structure Turn (State Task Result Effect : Type) where
  /-- The shared state afterwards. -/
  state : State
  next : Next Task Result
  /-- What the surroundings have to do, in this order. -/
  effects : List Effect := []

/-- A turn on a part of a larger state. -/
def Turn.map
    {State Task Result Effect State' Task' Result' Effect' : Type}
    (state : State → State')
    (task : Task → Task')
    (result : Result → Result')
    (effect : Effect → Effect')
    (turn : Turn State Task Result Effect) : Turn State' Task' Result' Effect' :=
  { state := state turn.state
    next := turn.next.map task result
    effects := turn.effects.map effect }

def Turn.mapTask
    {State Task Result Effect Outer : Type}
    (task : Task → Outer)
    (turn : Turn State Task Result Effect) : Turn State Outer Result Effect :=
  { state := turn.state, next := turn.next.map task id, effects := turn.effects }

end PubSub
