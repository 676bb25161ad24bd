import PubSub.Proofs.Broker.Flowing
import PubSub.Proofs.Subscription.Session
import PubSub.Proofs.Topic.Sending

/-!
# Sessions of a topic and a subscription on the in-memory broker

A session is a topic and a subscription with the in-memory broker between them. The driver calls of
both are calls of the broker, so what comes of them is not left open: sending a batch, and settling
messages, take effect in the turn in which a task looks at the call, and a call that receives
messages takes a turn at the feed whenever the background receive looks at it. The feed of the
subscription was attached before anything was sent.

A move is one thing that may happen next, as long as nothing is shut down and nothing is refused:
somebody sends or receives a message, acknowledges or drops one that was received, a context is
cancelled, a caller is dropped, time passes, or any task of the topic or of the subscription takes a
turn. A run is a list of moves, so a statement about every run is one about every interleaving.
-/

namespace PubSub
namespace Pipeline

variable {Number : Type}

/-- What a topic and a subscription are built from. -/
structure Setup (Number : Type) where
  /-- Limits of the batches of messages. -/
  batching : BatchOptions
  sendRetry : Backoff
  /-- Time after which the broker hands out an unacknowledged message again. -/
  ackDeadline : Duration
  tuning : Tuning Number
  /-- Limits of background receives. -/
  receiving : BatchOptions
  /-- Limits of the batches of acknowledgments. -/
  acknowledging : BatchOptions
  receiveRetry : Backoff

namespace Setup

variable (setup : Setup Number)

def topic : Topic.Setup where
  batching := setup.batching
  retry := setup.sendRetry
  classification := Broker.classification

def subscription : Subscription.Setup Number where
  tuning := setup.tuning
  receiving := setup.receiving
  acknowledging := setup.acknowledging
  retry := setup.receiveRetry
  classification := Broker.classification
  atMostOnce := false

/-- A setup with exact numbers, for runs that are worked out. -/
def exact : Setup Rat where
  batching := .single
  sendRetry := .immediate
  ackDeadline := .ofMillis 10000
  tuning := .exact
  receiving := .single
  acknowledging := .single
  receiveRetry := .immediate

end Setup

/-- A topic and a subscription with the broker between them. -/
structure Session (Number : Type) where
  topic : Topic.Session
  broker : Broker.Session
  subscription : Subscription.Session Number
  /-- The calls that receive messages from the broker, each with the number of its background
  receive and with its place among the calls of this receive, oldest first. No context of a driver
  call is cancelled before a shutdown, so these contexts only tell the calls apart: that of a call
  is its place in this list. -/
  asked : List (Nat × Nat) := []

/-- What may happen next. -/
inductive Move
  | send (context : Nat) (message : Message)
  | receive (context : Nat)
  /-- The message at a place is acknowledged. -/
  | acknowledge (place : Nat)
  /-- The message at a place is dropped. -/
  | discard (place : Nat)
  | cancel (context : Nat)
  /-- The sender at a place is dropped. -/
  | abandonSend (place : Nat)
  /-- The receiver at a place is dropped. -/
  | abandonReceive (place : Nat)
  | elapse (nanos : Nat)
  /-- The task of the topic at a place takes a turn. -/
  | topicTurn (place : Nat) (contextFirst : Bool) (pick : Delays → Duration)
  /-- The task of the subscription at a place takes a turn. -/
  | subscriptionTurn (place : Nat) (contextFirst : Bool) (pick : Delays → Duration)

/-- What a call that receives messages has come to in a turn, from what happened in this turn. -/
def answerOf : List Broker.Record → Answer (Except Fault (List Envelope))
  | .received _ _ result :: _ => .returned (result.mapError .broker)
  | _ => .running

/-- The driver calls that receive messages, as they were asked for. -/
def requestsOf (records : List Subscription.Record) : List (Nat × Nat × Nat) :=
  records.filterMap fun
    | .asked (.receiveBatch number place requested) => some (number, place, requested)
    | _ => none

namespace Session

/-- What the task of the topic at a place finds out about its driver call, and the broker after
that. -/
def sending (session : Session Number) (place : Nat) :
    Answer (Except Fault Unit) × Broker.Session :=
  match session.topic.activities[place]? with
  | some (.handler (.calling batch (.calling _))) =>
      let envelopes := batch.map Entry.item
      let sent := session.broker.broker.send (session.broker.cancelled.contains 0) envelopes
      (.returned (sent.1.mapError .broker), session.broker.step (.send 0 envelopes))
  | _ => (.running, session.broker)

/-- What the background receive at a place finds out about the driver call that it looks at, and
the broker after that. -/
def receiving (session : Session Number) (place : Nat) (contextFirst : Bool) :
    Answer (Except Fault (List Envelope)) × Broker.Session :=
  match session.subscription.activities[place]? with
  | some (.fetch (.calling number calls)) =>
      let index? := do
        let member ← calls.awaited?
        session.broker.calls.findIdx? fun call =>
          session.asked[call.context]? = some (number, member)
      match index? with
      | none => (.running, session.broker)
      | some index =>
          let after := session.broker.step (.turn index contextFirst)
          (answerOf (after.records.drop session.broker.records.length), after)
  | _ => (.running, session.broker)

/-- What the handler of acknowledgments at a place finds out about the driver call that it looks at,
and the broker after that. -/
def settling (session : Session Number) (place : Nat) :
    Answer (Except Fault Unit) × Broker.Session :=
  match session.subscription.activities[place]? with
  | some (.handler (.calling _ calls)) =>
      match calls.members[calls.place]?, session.broker.broker.feed? 0 with
      | some (.running call (.calling _)), some feed =>
          let cancelled := session.broker.cancelled.contains 0
          if call.isAck then
            (.returned ((feed.acknowledge cancelled call.ids).1.mapError .broker),
              session.broker.step (.acknowledge 0 0 call.ids))
          else
            (.returned ((feed.refuse cancelled call.ids).1.mapError .broker),
              session.broker.step (.refuse 0 0 call.ids))
      | _, _ => (.running, session.broker)
  | _ => (.running, session.broker)

/-- A call that a background receive has asked for begins. -/
def begin (session : Session Number) : Nat × Nat × Nat → Session Number
  | (number, member, requested) =>
      { session with
        broker := session.broker.step (.receive 0 session.asked.length requested)
        asked := session.asked ++ [(number, member)] }

variable [Scalar Number]

/-- Make a move. A move that nothing at its place can make has no effect. -/
def step (session : Session Number) : Move → Session Number
  | .send context message => { session with topic := session.topic.step (.send context message) }
  | .receive context =>
      { session with subscription := session.subscription.step (.receive context) }
  | .acknowledge place =>
      { session with subscription := session.subscription.step (.complete place true) }
  | .discard place =>
      { session with subscription := session.subscription.step (.discard place) }
  | .cancel context =>
      { session with
        topic := session.topic.step (.cancel context)
        subscription := session.subscription.step (.cancel context) }
  | .abandonSend place => { session with topic := session.topic.step (.abandon place) }
  | .abandonReceive place =>
      { session with subscription := session.subscription.step (.abandon place) }
  | .elapse nanos =>
      { session with
        topic := session.topic.step (.elapse nanos)
        broker := session.broker.step (.elapse nanos)
        subscription := session.subscription.step (.elapse nanos) }
  | .topicTurn place contextFirst pick =>
      let (settled, broker) := session.sending place
      { session with
        topic := session.topic.step (.turn place { contextFirst, pick, settled })
        broker }
  | .subscriptionTurn place contextFirst pick =>
      let (fetched, received) := session.receiving place contextFirst
      let (settled, broker) := { session with broker := received }.settling place
      let subscription :=
        session.subscription.step (.turn place { contextFirst, pick, fetched, settled })
      (requestsOf (subscription.records.drop session.subscription.records.length)).foldl begin
        { session with broker, subscription }

/-- Make moves, one after the other. -/
def run (session : Session Number) (moves : List Move) : Session Number := moves.foldl step session

end Session

variable [Scalar Number]

/-- A topic and a subscription that nobody has used. -/
def Setup.session (setup : Setup Number) : Session Number where
  topic := setup.topic.session
  broker := Broker.sessionOf [.attach (some setup.ackDeadline)]
  subscription := setup.subscription.session

/-- The session of a new topic and a new subscription after a list of moves. -/
def sessionOf (setup : Setup Number) (moves : List Move) : Session Number :=
  setup.session.run moves

theorem sessionOf_append_singleton (setup : Setup Number) (moves : List Move) (move : Move) :
    sessionOf setup (moves ++ [move]) = (sessionOf setup moves).step move :=
  List.foldl_append

end Pipeline
end PubSub
