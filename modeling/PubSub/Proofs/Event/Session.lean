import PubSub.Event.Delivery

/-!
# Sessions of a hub

A session is a hub with the workers of its subscribers, its listener and the closings under way,
and a record of what has happened. A move is one thing that may happen next: the owner publishes
an event, somebody emits an event to the subscribers, a closing begins, or a task takes a turn.
How long a subscriber takes for an event, and whether it ends abnormally, is part of the move. A
run is a list of moves, so a statement about every run is one about every interleaving.

A subscriber is named by its place in the list of subscribers.
-/

namespace PubSub
namespace Hub

/-- Something that has happened. -/
inductive Record
  /-- The owner of the hub published an event. -/
  | published (event : Event)
  /-- An event was offered to the subscribers; to each of them why it was refused, if it was. -/
  | offered (event : Event) (refusals : List (Option String))
  /-- The hub published a report of its own. -/
  | reported (event : Event)
  /-- The listener missed so many events. -/
  | missed (count : Nat)
  | began (place : Nat) (event : Event)
  | finished (place : Nat) (event : Event)
  | panicked (place : Nat) (event : Event) (info : String)
  /-- A closing that was not the first has returned. -/
  | passed
  /-- A closing that waited for the workers has returned. -/
  | drained
  deriving DecidableEq

/-- A hub with its tasks. -/
structure Session where
  hub : Hub
  /-- The worker of each subscriber, if it has not ended. -/
  workers : List (Option Worker)
  isListening : Bool
  /-- Closings under way. -/
  endings : List Ending := []
  /-- What has happened, oldest first. -/
  records : List Record := []

/-- What may happen next. -/
inductive Move
  | publish (event : Event)
  | emit (event : Event)
  /-- The listener takes a turn. -/
  | listen
  /-- The worker of a subscriber takes a turn, given what the subscriber has come to. -/
  | work (place : Nat) (answer : Answer Unit)
  | close
  /-- The subscribers are shut down by whoever owns them alone. -/
  | shutdown
  /-- The closing at an index takes a turn. -/
  | finish (index : Nat)

end Hub

/-- Why a queue refuses an event, if it does. -/
def SubscriberQueue.refusal? (queue : SubscriberQueue) (event : Event) : Option String :=
  match queue.offer event with
  | .ok _ => none
  | .error reason => some reason

namespace Hub

/-- Why each subscriber refuses an event, if it does. -/
def refusals (hub : Hub) (event : Event) : List (Option String) :=
  hub.queues.map fun queue => queue.refusal? event

/-- What the listener did when it took something off the bus. -/
def hearRecords (hub : Hub) : Received Event → List Record
  | .item event => [.offered event (hub.refusals event)]
  | .lagged count => [.missed count]
  | .empty => []
  | .closed => []

/-- What a subscriber did about the event that it handles. -/
def answerRecords (place : Nat) (answer : Answer Unit) : Worker → List Record
  | .idle => []
  | .handling event =>
      match answer with
      | .running => []
      | .returned _ => [.finished place event]
      | .panicked info => [.panicked place event info]

/-- What a closing did in a turn. -/
def endRecords (ending : Ending) : Next Ending Unit → List Record
  | .done _ =>
      match ending with
      | .draining _ => [.drained]
      | _ => [.passed]
  | _ => []

namespace Session

def note (session : Session) (happened : List Record) : Session :=
  { session with records := session.records ++ happened }

/-- Carry out what a task asks for. Signals only wake tasks, which may take turns at any time. -/
def perform (session : Session) : HubEffect → Session
  | .publish event => { session with hub := session.hub.publish event }.note [.reported event]
  | .signal _ => session

/-- Carry out what a worker asks for. -/
def performWorker (place : Nat) (session : Session) : WorkerEffect → Session
  | .onHub effect => session.perform effect
  | .handle event => session.note [.began place event]

def emit (session : Session) (event : Event) : Session :=
  let (hub, effects) := session.hub.emit event
  effects.foldl perform
    ({ session with hub }.note [.offered event (session.hub.refusals event)])

def listen (session : Session) : Session :=
  let turn := session.hub.listenerStep
  turn.effects.foldl perform
    ({ session with hub := turn.state, isListening := !turn.next.tasks.isEmpty }.note
      (hearRecords session.hub (session.hub.bus.receive .listener).1))

/-- The worker at a place takes a turn. -/
def work (session : Session) (place : Nat) (answer : Answer Unit) (worker : Worker) : Session :=
  let turn := worker.step place answer session.hub
  turn.effects.foldl (performWorker place)
    ({ session with
        hub := turn.state
        workers := session.workers.set place turn.next.tasks.head? }.note
      (answerRecords place answer worker))

/-- A closing takes a turn among others. -/
def finish (session : Session) (others : List Ending) (ending : Ending) : Session :=
  let turn := ending.step session.hub
  turn.effects.foldl perform
    ({ session with hub := turn.state, endings := turn.next.tasks ++ others }.note
      (endRecords ending turn.next))

/-- Make a move. A move that nothing at its place can make has no effect. -/
def step (session : Session) : Move → Session
  | .publish event => { session with hub := session.hub.publish event }.note [.published event]
  | .emit event => session.emit event
  | .listen => if session.isListening then session.listen else session
  | .work place answer =>
      match session.workers[place]? with
      | some (some worker) => session.work place answer worker
      | _ => session
  | .close => { session with endings := .begin :: session.endings }
  | .shutdown => { session with endings := .closingQueues :: session.endings }
  | .finish index =>
      match session.endings[index]? with
      | some ending => session.finish (session.endings.eraseIdx index) ending
      | none => session

/-- Whether a move is a turn of the listener or of a worker that does not wait. -/
def acts (session : Session) : Move → Bool
  | .listen => session.isListening && !session.hub.listenerStep.next.isWaiting
  | .work place answer =>
      match session.workers[place]? with
      | some (some worker) => !(worker.step place answer session.hub).next.isWaiting
      | _ => false
  | _ => false

/-- Make moves, one after the other. -/
def run (session : Session) (moves : List Move) : Session := moves.foldl step session

end Session

/-- The session of a new hub: its workers and its listener have just begun. -/
def Session.start (busCapacity : Nat) (subscribers : List (String × Nat)) : Session :=
  let queues := subscribers.map fun subscriber =>
    SubscriberQueue.create subscriber.1 subscriber.2
  let hub := create busCapacity queues
  { hub
    workers := subscribers.map fun _ => some .idle
    isListening := hub.isListening }

/-- The session of a new hub after a list of moves. -/
def sessionOf
    (busCapacity : Nat)
    (subscribers : List (String × Nat))
    (moves : List Move) : Session := (Session.start busCapacity subscribers).run moves

theorem sessionOf_append
    (busCapacity : Nat)
    (subscribers : List (String × Nat))
    (moves later : List Move) :
    sessionOf busCapacity subscribers (moves ++ later) =
      (sessionOf busCapacity subscribers moves).run later := List.foldl_append

theorem sessionOf_append_singleton
    (busCapacity : Nat)
    (subscribers : List (String × Nat))
    (moves : List Move)
    (move : Move) :
    sessionOf busCapacity subscribers (moves ++ [move]) =
      (sessionOf busCapacity subscribers moves).step move := by
  simp [sessionOf, Session.run]

end Hub
end PubSub
