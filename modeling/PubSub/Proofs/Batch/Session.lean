import PubSub.Batch.Tasks

/-!
# Sessions of a batcher

A session is a batcher with the tasks at work on it, the time, the contexts that are
cancelled, and a record of what has happened. A move is one thing that may happen
next: somebody calls the batcher, a context is cancelled, time passes, a caller is
dropped, or any task takes a turn. A run is a list of moves, so a statement about
every run is one about every interleaving.

Tasks take their turns as they do everywhere else; a session only keeps them, starts
the tasks they ask for, and writes down what they did.
-/

namespace PubSub
namespace Batcher

/-- A task at work on a batcher. -/
inductive Activity (Item : Type)
  /-- A caller with the number of its context. -/
  | caller (context : Nat) (adding : Adding Item)
  | handler (handling : Handling Item)
  /-- A linger timer that goes off at a time. -/
  | timer (wakeAt : Nat)
  | flush (flush : Flush)

/-- Something that has happened. -/
inductive Record (Item : Type)
  | accepted (entry : Entry Item)
  /-- A pending item was taken back. -/
  | withdrawn (id : Nat)
  /-- A batch was cut off the queue. -/
  | taken (batch : List (Entry Item))
  /-- The handler was called with a batch. -/
  | called (batch : List (Entry Item))
  /-- The handler of a batch has come to an answer. -/
  | ended (batch : List (Entry Item)) (answer : Answer (Outcome Unit))
  /-- The caller of an accepted item was answered. -/
  | returned (context id : Nat) (result : Outcome Unit)
  /-- A flush was answered. -/
  | flushed

/-- A batcher with the tasks at work on it. -/
structure Session (Item : Type) where
  batcher : Batcher Item
  activities : List (Activity Item) := []
  /-- Time in nanoseconds. -/
  now : Nat := 0
  /-- Contexts that are cancelled. -/
  cancelled : List Nat := []
  /-- What has happened, oldest first. -/
  records : List (Record Item) := []

/-- What may happen next. -/
inductive Move (Item : Type)
  /-- Somebody adds an item and waits for its result. -/
  | add (context size : Nat) (item : Item)
  | addNoWait (size : Nat) (item : Item)
  | flush
  | cancel (context : Nat)
  /-- The caller or the flush at a place is dropped. -/
  | abandon (place : Nat)
  | elapse (nanos : Nat)
  /-- The task at a place takes a turn. A handler is told what its call has come to. -/
  | turn (place : Nat) (contextFirst : Bool) (answer : Answer (Outcome Unit))

variable {Item : Type}

/-! ## What a turn leaves behind -/

/-- The task that goes on after a turn, if one does. -/
def remaining {Task Result : Type} (wrap : Task → Activity Item) :
    Next Task Result → List (Activity Item)
  | .continue task => [wrap task]
  | .wait task => [wrap task]
  | .done _ => []

/-- The tasks that have to be started. -/
def startedBy (effects : List (BatchEffect Item)) : List (Activity Item) :=
  effects.map fun
    | .startHandler batch => .handler (.starting batch)
    | .startLinger wakeAt => .timer wakeAt

/-- The batches that were cut off the queue. -/
def takenBy (effects : List (BatchEffect Item)) : List (Record Item) :=
  effects.filterMap fun
    | .startHandler batch => some (.taken batch)
    | .startLinger _ => none

/-- The items that were taken back between two states. -/
def withdrawnSince (before after : Batcher Item) : List (Record Item) :=
  (after.withdrawn.take (after.withdrawn.length - before.withdrawn.length)).map .withdrawn

/-- What a caller did in a turn. -/
def Adding.records (context : Nat) (before after : Batcher Item) :
    Adding Item → Next (Adding Item) (Outcome Unit) → List (Record Item)
  | .entering size item, .continue (.awaiting id) => [.accepted { id, item, size }]
  | .awaiting id, .done result => withdrawnSince before after ++ [.returned context id result]
  | _, _ => []

/-- What a handler task did in a turn, apart from calling the handler. -/
def Handling.records (answer : Answer (Outcome Unit)) :
    Handling Item → Next (Handling Item) Unit → List (Record Item)
  | .working batch, .continue _ => [.ended batch answer]
  | .answering [] _, .continue later => [.taken later.batch]
  | _, _ => []

/-- What a flush did in a turn, apart from handing out batches. -/
def Flush.records : Next Flush Unit → List (Record Item)
  | .done _ => [.flushed]
  | _ => []

namespace Session

/-- A batcher that nobody has used. -/
def create (options : BatchOptions) : Session Item := { batcher := Batcher.create options }

/-- What a task finds around it. -/
def moment (session : Session Item) (contextFirst : Bool) : Moment :=
  { now := session.now, contextFirst, pick := Delays.shortest }

/-- The session after a turn of a task; the others are left alone. -/
def resume {Task Result Effect : Type}
    (session : Session Item)
    (others : List (Activity Item))
    (wrap : Task → Activity Item)
    (started : List (Activity Item))
    (happened : List (Record Item))
    (turn : Turn (Batcher Item) Task Result Effect) : Session Item :=
  { session with
    batcher := turn.state
    activities := started ++ (remaining wrap turn.next ++ others)
    records := session.records ++ happened }

/-- A task takes a turn among others. -/
def turn
    (session : Session Item)
    (contextFirst : Bool)
    (answer : Answer (Outcome Unit))
    (others : List (Activity Item)) : Activity Item → Session Item
  | .caller context adding =>
      let turn := adding.step (session.moment contextFirst)
        (session.cancelled.contains context) session.batcher
      session.resume others (.caller context) (startedBy turn.effects)
        (adding.records context session.batcher turn.state turn.next ++ takenBy turn.effects) turn
  | .handler handling =>
      let turn := handling.step answer session.batcher
      session.resume others .handler []
        (turn.effects.map (fun call => .called call.batch) ++ handling.records answer turn.next)
        turn
  | .timer wakeAt =>
      let turn := session.batcher.lingerStep (session.moment contextFirst) wakeAt
      session.resume others .timer (startedBy turn.effects) (takenBy turn.effects) turn
  | .flush flush =>
      let turn := flush.step (session.moment contextFirst) session.batcher
      session.resume others .flush (startedBy turn.effects)
        (Flush.records turn.next ++ takenBy turn.effects) turn

/-- Somebody adds an item and does not wait. -/
def addNow (session : Session Item) (size : Nat) (item : Item) : Session Item :=
  match session.batcher.accept size item with
  | .error _ => session
  | .ok (id, dispatch) =>
      let turn : Turn (Batcher Item) Empty Unit (BatchEffect Item) :=
        dispatched (session.moment false) dispatch (.done ())
      session.resume session.activities Empty.elim (startedBy turn.effects)
        (.accepted { id, item, size } :: takenBy turn.effects) turn

/-- Make a move. A move that nothing at its place can make has no effect. -/
def step (session : Session Item) : Move Item → Session Item
  | .add context size item =>
      { session with
        activities := .caller context (.entering size item) :: session.activities }
  | .addNoWait size item => session.addNow size item
  | .flush => { session with activities := .flush .starting :: session.activities }
  | .cancel context => { session with cancelled := context :: session.cancelled }
  | .abandon place =>
      match session.activities[place]? with
      | some (.caller ..) => { session with activities := session.activities.eraseIdx place }
      | some (.flush _) => { session with activities := session.activities.eraseIdx place }
      | _ => session
  | .elapse nanos => { session with now := session.now + nanos }
  | .turn place contextFirst answer =>
      match session.activities[place]? with
      | none => session
      | some activity =>
          session.turn contextFirst answer (session.activities.eraseIdx place) activity

/-- Make moves, one after the other. -/
def run (session : Session Item) (moves : List (Move Item)) : Session Item :=
  moves.foldl step session

end Session

/-- The session of a batcher with these options after a list of moves. -/
def sessionOf (options : BatchOptions) (moves : List (Move Item)) : Session Item :=
  (Session.create options).run moves

/-! ## What a session shows -/

@[simp] def Record.accepted? : Record Item → Option (Entry Item)
  | .accepted entry => some entry
  | _ => none

@[simp] def Record.withdrawn? : Record Item → Option Nat
  | .withdrawn id => some id
  | _ => none

@[simp] def Record.taken? : Record Item → Option (List (Entry Item))
  | .taken batch => some batch
  | _ => none

@[simp] def Record.called? : Record Item → Option (List (Entry Item))
  | .called batch => some batch
  | _ => none

@[simp] def Record.ended? : Record Item → Option (List (Entry Item) × Answer (Outcome Unit))
  | .ended batch answer => some (batch, answer)
  | _ => none

@[simp] def Activity.starting? : Activity Item → Option (List (Entry Item))
  | .handler (.starting batch) => some batch
  | _ => none

@[simp] def Activity.working? : Activity Item → Option (List (Entry Item))
  | .handler (.working batch) => some batch
  | _ => none

@[simp] def Activity.isHandler : Activity Item → Bool
  | .handler _ => true
  | _ => false

namespace Session

variable (session : Session Item)

/-- The accepted items, oldest first. -/
@[simp] def accepted : List (Entry Item) := session.records.filterMap Record.accepted?

/-- The items that were taken back, oldest first. -/
@[simp] def withdrawn : List Nat := session.records.filterMap Record.withdrawn?

/-- The batches that were cut off the queue, oldest first. -/
@[simp] def taken : List (List (Entry Item)) := session.records.filterMap Record.taken?

/-- The batches with which the handler was called, oldest call first. -/
@[simp] def called : List (List (Entry Item)) := session.records.filterMap Record.called?

/-- The batches whose handler has come to an answer, with that answer, oldest first. -/
@[simp] def ended : List (List (Entry Item) × Answer (Outcome Unit)) :=
  session.records.filterMap Record.ended?

/-- The batches with which the handler is about to be called. -/
@[simp] def starting : List (List (Entry Item)) := session.activities.filterMap Activity.starting?

/-- The batches at which the handler is at work. -/
@[simp] def working : List (List (Entry Item)) := session.activities.filterMap Activity.working?

end Session

end Batcher
end PubSub
