import PubSub.Subscription.Tasks

/-!
# Sessions of a subscription

A session is a subscription with the tasks at work on it, the messages that receivers got,
the time, the contexts that are cancelled, and a record of what has happened. A move is one
thing that may happen next: somebody receives, shuts down, or completes a message, a context
is cancelled, time passes, a caller is dropped, or any task takes a turn. A run is a list of
moves, so a statement about every run is one about every interleaving.

A move that gives a task its turn also says what the driver call that the task waits for has
come to, so a statement about every run is one about every driver.
-/

namespace PubSub
namespace Subscription

/-- A task at work on a subscription. -/
inductive Activity
  /-- A receiver with the number of its context. -/
  | receiver (context : Nat) (receiver : Receiver)
  | fetch (fetch : Fetch)
  | handler (handler : Handler)
  /-- A linger timer of the acknowledgments that goes off at a time. -/
  | timer (wakeAt : Nat)
  /-- A shutdown with the number of its context. -/
  | shutdown (context : Nat) (closing : Closing)

/-- Something that has happened. -/
inductive Record
  /-- A task asked its surroundings for something. -/
  | asked (effect : Effect)
  /-- A message left the queue. -/
  | popped (envelope : Envelope)
  /-- A receiver was answered. -/
  | received (context : Nat) (result : Outcome Message)
  /-- The call at a place of a background receive has come to an answer. -/
  | answered (fetch place : Nat) (answer : Answer (Except Fault (List Envelope)))
  /-- The result of a background receive was stored. -/
  | fetched (fetch : Nat) (result : Outcome (List Envelope))
  /-- A background receive ended abnormally. -/
  | crashed (fetch : Nat)
  /-- A request was handed to the acknowledgments. -/
  | accepted (entry : Entry AckRequest)
  /-- A handler went on with another batch. -/
  | tookOver (batch : List (Entry AckRequest))
  /-- The call at a place of a batch of acknowledgments has come to an answer. -/
  | settled (batch : List (Entry AckRequest)) (place : Nat) (answer : Answer (Except Fault Unit))
  /-- The driver calls of a batch of acknowledgments failed, and the error was recorded. -/
  | failed (batch : List (Entry AckRequest)) (error : Error)
  /-- The handler of a batch of acknowledgments has come to a result. -/
  | handled (batch : List (Entry AckRequest)) (result : Outcome Unit)
  /-- A shutdown came too late. -/
  | refused (context : Nat) (error : Error)
  /-- A shutdown has closed the driver, which ended as it says, and has come to its result. -/
  | closed (context : Nat) (driver : Except Fault Unit) (result : Outcome Unit)

/-- A subscription with the tasks at work on it. -/
structure Session (Number : Type) where
  subscription : Subscription Number
  activities : List Activity := []
  /-- The messages that receivers got, oldest first; none where a message was dropped. -/
  messages : List (Option Message) := []
  /-- Time in nanoseconds. -/
  now : Nat := 0
  /-- Contexts that are cancelled. -/
  cancelled : List Nat := []
  /-- Whether nobody holds the subscription any more. -/
  dropped : Bool := false
  /-- What has happened, oldest first. -/
  records : List Record := []

/-- What a task finds out when it takes a turn. -/
structure Finding where
  contextFirst : Bool := false
  pick : Delays → Duration := Delays.shortest
  /-- What the awaited call for messages has come to. -/
  fetched : Answer (Except Fault (List Envelope)) := .running
  /-- What any other awaited call has come to. -/
  settled : Answer (Except Fault Unit) := .running

/-- What may happen next. -/
inductive Move
  | receive (context : Nat)
  | shutdown (context : Nat)
  /-- The message at a place is acknowledged or refused. -/
  | complete (place : Nat) (isAck : Bool)
  /-- The message at a place is dropped. -/
  | discard (place : Nat)
  | cancel (context : Nat)
  /-- The receiver or the shutdown at a place is dropped. -/
  | abandon (place : Nat)
  /-- The subscription is dropped. -/
  | drop
  | elapse (nanos : Nat)
  /-- The task at a place takes a turn. -/
  | turn (place : Nat) (finding : Finding)

variable {Number : Type}

/-! ## What a turn leaves behind -/

/-- The tasks that have to be started. -/
def startedBy (effects : List Effect) : List Activity :=
  effects.filterMap fun
    | .startFetch number sizes => some (.fetch (.ofSizes number sizes))
    | .batching (.startHandler batch) => some (.handler (.announcing batch))
    | .batching (.startLinger wakeAt) => some (.timer wakeAt)
    | _ => none

/-- An awaited call that has come to an answer. -/
def cameTo {Result : Type} (awaited : Option Nat) (answer : Answer Result)
    (record : Nat → Record) : List Record :=
  match answer with
  | .running => []
  | _ => awaited.toList.map record

/-- The messages that left the front of a queue. -/
def poppedSince (before after : Subscription Number) : List Envelope :=
  before.queue.take (before.queue.length - after.queue.length)

/-- What a receiver did in a turn. -/
def Receiver.records (context : Nat) (before after : Subscription Number)
    (next : Next Receiver (Outcome Message)) : List Record :=
  (poppedSince before after).map .popped
    ++ match next with
      | .done result => [.received context result]
      | _ => []

/-- What a background receive did in a turn. -/
def Fetch.records (answer : Answer (Except Fault (List Envelope))) :
    Fetch → Next Fetch Unit → List Record
  | .calling number calls, next =>
      cameTo calls.awaited? answer (.answered number · answer)
        ++ match next with
          | .done _ => [.crashed number]
          | _ => []
  | .storing number result, _ => [.fetched number result]
  | .waking _, _ => []

/-- What the handler of a batch of acknowledgments did in a turn. -/
def Handler.records (answer : Answer (Except Fault Unit)) :
    Handler → Next Handler Unit → List Record
  | .announcing _, _ => []
  | .calling batch calls, next =>
      cameTo calls.awaited? answer (.settled batch · answer)
        ++ match next with
          | .continue (.answering _ result) => [.handled batch result]
          | _ => []
  | .failing batch error, _ => [.failed batch error, .handled batch (.error error)]
  | .answering .., .continue (.announcing batch) => [.tookOver batch]
  | .answering .., _ => []

/-- What a shutdown did in a turn. -/
def closingRecords (context : Nat) (answer : Answer (Except Fault Unit)) :
    Next Closing Closed → List Record
  | .done (.refused error) => [.refused context error]
  | .done (.closed result) =>
      match answer with
      | .returned driver => [.closed context driver result]
      | _ => []
  | _ => []

/-- The messages that a receiver got in a turn. -/
def gotten : Next Receiver (Outcome Message) → List (Option Message)
  | .done (.ok message) => [some message]
  | _ => []

/-- Whether a task borrows the subscription, so that it cannot be dropped. -/
def Activity.isCaller : Activity → Bool
  | .receiver .. => true
  | .shutdown .. => true
  | _ => false

namespace Session

/-- What a task finds around it. -/
def moment (session : Session Number) (finding : Finding) : Moment :=
  { now := session.now, contextFirst := finding.contextFirst, pick := finding.pick }

/-- The session after a turn of a task; the others are left alone. -/
def resume {Task Result : Type}
    (session : Session Number)
    (others : List Activity)
    (wrap : Task → Activity)
    (happened : List Record)
    (turn : Turn (Subscription Number) Task Result Effect) : Session Number :=
  { session with
    subscription := turn.state
    activities := startedBy turn.effects ++ (turn.next.tasks.map wrap ++ others)
    records := session.records ++ happened }

variable [Scalar Number]

/-- A task takes a turn among others. -/
def turn
    (session : Session Number)
    (finding : Finding)
    (others : List Activity) : Activity → Session Number
  | .receiver context receiver =>
      let turn := receiver.step (session.moment finding) (session.cancelled.contains context)
        session.subscription
      let after := session.resume others (.receiver context)
        (turn.effects.map .asked
          ++ Receiver.records context session.subscription turn.state turn.next) turn
      { after with messages := session.messages ++ gotten turn.next }
  | .fetch fetch =>
      let turn := fetch.step (session.moment finding) finding.fetched session.subscription
      session.resume others .fetch
        (fetch.records finding.fetched turn.next ++ turn.effects.map .asked) turn
  | .handler handler =>
      let turn := handler.step (session.moment finding) finding.settled session.subscription
      session.resume others .handler
        (handler.records finding.settled turn.next ++ turn.effects.map .asked) turn
  | .timer wakeAt =>
      let turn := lingerStep (session.moment finding) session.subscription wakeAt
      session.resume others .timer (turn.effects.map .asked) turn
  | .shutdown context closing =>
      let turn := closingStep (session.moment finding) (session.cancelled.contains context)
        finding.settled session.subscription closing
      session.resume others (.shutdown context)
        (turn.effects.map .asked ++ closingRecords context finding.settled turn.next) turn

/-- Hand a request to the acknowledgments; one that comes too late is lost. -/
def request (session : Session Number) (request : AckRequest) : Session Number :=
  match session.subscription.acks with
  | none => session
  | some acks =>
      match acks.accept request.byteSize request with
      | .error _ => session
      | .ok (id, dispatch) =>
          let turn : Turn (Subscription Number) Empty Unit Effect :=
            session.subscription.onAcks
              (Batcher.dispatched (session.moment {}) dispatch (.done ()))
          session.resume session.activities Empty.elim
            (.accepted { id, item := request, size := request.byteSize }
              :: turn.effects.map .asked) turn

/-- Complete a message. -/
def complete (session : Session Number) (place : Nat) (isAck : Bool) : Session Number :=
  match session.messages[place]? with
  | some (some message) =>
      let completed := message.complete isAck
      let kept := { session with messages := session.messages.set place (some completed.2) }
      match completed.1 with
      | .ok (.send request) => kept.request request
      | _ => kept
  | _ => session

/-- Drop a message; one that should have been completed is announced. -/
def discard (session : Session Number) (place : Nat) : Session Number :=
  match session.messages[place]? with
  | some (some message) =>
      { session with
        messages := session.messages.set place none
        records := session.records
          ++ if message.isNeglected then [.asked (.publish neglectedEvent)] else [] }
  | _ => session

/-- Somebody calls the subscription, which is possible as long as somebody holds it. -/
def call (session : Session Number) (caller : Activity) : Session Number :=
  if session.dropped then session
  else { session with activities := caller :: session.activities }

/-- Make a move. A move that nothing at its place can make has no effect. -/
def step (session : Session Number) : Move → Session Number
  | .receive context => session.call (.receiver context .asking)
  | .shutdown context => session.call (.shutdown context .begin)
  | .complete place isAck => session.complete place isAck
  | .discard place => session.discard place
  | .cancel context => { session with cancelled := context :: session.cancelled }
  | .abandon place =>
      match session.activities[place]? with
      | none => session
      | some activity =>
          if activity.isCaller then
            { session with activities := session.activities.eraseIdx place }
          else session
  | .drop =>
      if session.activities.any Activity.isCaller then session
      else
        { session with
          subscription := session.subscription.endBackground
          dropped := true }
  | .elapse nanos => { session with now := session.now + nanos }
  | .turn place finding =>
      match session.activities[place]? with
      | none => session
      | some activity => session.turn finding (session.activities.eraseIdx place) activity

/-- Make moves, one after the other. -/
def run (session : Session Number) (moves : List Move) : Session Number :=
  moves.foldl step session

end Session

/-- What a subscription is built from. -/
structure Setup (Number : Type) where
  tuning : Tuning Number
  /-- Limits of background receives. -/
  receiving : BatchOptions
  /-- Limits of the batches of acknowledgments. -/
  acknowledging : BatchOptions
  retry : Backoff
  /-- How the driver judges its errors. -/
  classification : Classification
  /-- Whether the driver delivers messages at most once, so that it wants no acknowledgments. -/
  atMostOnce : Bool

variable [Scalar Number]

/-- The subscription that is built. -/
def Setup.subscription (setup : Setup Number) : Subscription Number :=
  Subscription.create setup.tuning setup.receiving setup.acknowledging setup.retry
    setup.classification setup.atMostOnce

/-- A setup with exact numbers, for runs that are worked out. -/
def Setup.exact : Setup Rat :=
  { tuning := .exact
    receiving := .single
    acknowledging := .single
    retry := .immediate
    classification := { isRetryable := fun _ => false, codeOf := fun _ => .internal }
    atMostOnce := false }

/-- A subscription that nobody has used. -/
def Setup.session (setup : Setup Number) : Session Number :=
  { subscription := setup.subscription }

/-- The session of a new subscription after a list of moves. -/
def sessionOf (setup : Setup Number) (moves : List Move) : Session Number :=
  setup.session.run moves

/-! ## What a session shows -/

@[simp] def Record.popped? : Record → Option Envelope
  | .popped envelope => some envelope
  | _ => none

@[simp] def Record.delivered? : Record → Option Message
  | .received _ (.ok message) => some message
  | _ => none

@[simp] def Record.stored? : Record → Option (Nat × List Envelope)
  | .fetched fetch (.ok envelopes) => some (fetch, envelopes)
  | _ => none

@[simp] def Record.crashed? : Record → Option Nat
  | .crashed fetch => some fetch
  | _ => none

@[simp] def Activity.inFlight? : Activity → Option Nat
  | .fetch (.calling number _) => some number
  | .fetch (.storing number _) => some number
  | _ => none

namespace Session

variable (session : Session Number)

/-- The messages that left the queue, oldest first. -/
@[simp] def popped : List Envelope := session.records.filterMap Record.popped?

/-- The messages that receivers were answered with, oldest first. -/
@[simp] def delivered : List Message := session.records.filterMap Record.delivered?

/-- The background receives that ended well with what they have stored, oldest first. -/
@[simp] def stored : List (Nat × List Envelope) := session.records.filterMap Record.stored?

/-- The background receives that ended abnormally. -/
@[simp] def crashed : List Nat := session.records.filterMap Record.crashed?

/-- The background receives in flight: those whose result is not stored yet. -/
@[simp] def inFlight : List Nat := session.activities.filterMap Activity.inFlight?

end Session

end Subscription
end PubSub
