import PubSub.Broker.Basic
import PubSub.Broker.Receiver

/-!
# Sessions of the in-memory broker

A session is a broker with the calls that receive messages from its feeds, the time, the
contexts that are cancelled, and a record of what has happened. A move is one thing that may
happen next: a feed is attached, messages are sent, acknowledged or refused, somebody begins to
receive, a context is cancelled, time passes, a call is dropped, the broker or a feed is closed,
or any call takes a turn. A run is a list of moves, so a statement about every run is one about
every interleaving.

A feed is named by its place, the number of feeds that were attached before.
-/

namespace PubSub
namespace Broker

/-- A call that receives messages from a feed. -/
structure Call where
  place : Nat
  context : Nat
  receiver : FeedReceiver
  deriving DecidableEq

/-- Something that has happened. -/
inductive Record
  | attached (place : Nat)
  /-- Messages were sent, under consecutive numbers from the first on. -/
  | sent (first : Nat) (envelopes : List Envelope)
  /-- A call that receives messages was answered at a time. -/
  | received (place time : Nat) (result : Except BrokerError (List Envelope))
  /-- The messages of these numbers were acknowledged at a feed. -/
  | acknowledged (place : Nat) (numbers : List Nat)
  /-- The messages of these numbers were refused at a feed. -/
  | refused (place : Nat) (numbers : List Nat)

/-- A broker with the calls at work on it. -/
structure Session where
  broker : Broker := {}
  calls : List Call := []
  /-- Time in nanoseconds. -/
  now : Nat := 0
  /-- Contexts that are cancelled. -/
  cancelled : List Nat := []
  /-- What has happened, oldest first. -/
  records : List Record := []

/-- What may happen next. -/
inductive Move
  | attach (ackDeadline : Option Duration)
  | send (context : Nat) (envelopes : List Envelope)
  | receive (place context requested : Nat)
  | acknowledge (place context : Nat) (ids : List AckId)
  | refuse (place context : Nat) (ids : List AckId)
  | cancel (context : Nat)
  /-- The call at an index is dropped. -/
  | abandon (index : Nat)
  | close
  | closeFeed (place : Nat)
  | elapse (nanos : Nat)
  /-- The call at an index takes a turn. -/
  | turn (index : Nat) (contextFirst : Bool)

/-- What a call of a feed did in a turn. -/
def answerRecords (place time : Nat) :
    Next FeedReceiver (Except BrokerError (List Envelope)) → List Record
  | .done result => [.received place time result]
  | _ => []

namespace Session

/-- What a call finds around it. -/
def moment (session : Session) (contextFirst : Bool) : Moment :=
  { now := session.now, contextFirst, pick := Delays.shortest }

/-- A call takes a turn on its feed among others. -/
def turn
    (session : Session)
    (contextFirst : Bool)
    (others : List Call)
    (feed : Feed)
    (call : Call) : Session :=
  let turn := call.receiver.step (session.moment contextFirst)
    (session.cancelled.contains call.context) feed
  { session with
    broker := session.broker.setFeed call.place turn.state
    calls := turn.next.tasks.map (fun receiver => { call with receiver }) ++ others
    records := session.records ++ answerRecords call.place session.now turn.next }

/-- Settle messages at a feed: the outcome and the feed afterwards, and what has happened if the
call was permitted. -/
def settle
    (session : Session)
    (place context : Nat)
    (ids : List AckId)
    (operation : Feed → Bool → List AckId → Except BrokerError Unit × Feed)
    (happened : List Nat → Record) : Session :=
  match session.broker.feed? place with
  | none => session
  | some feed =>
      let cancelled := session.cancelled.contains context
      { session with
        broker := session.broker.setFeed place (operation feed cancelled ids).2
        records := session.records ++
          match feed.permitted cancelled ids with
          | .ok numbers => [happened numbers]
          | .error _ => [] }

/-- Make a move. A move that nothing at its place can make has no effect. -/
def step (session : Session) : Move → Session
  | .attach ackDeadline =>
      { session with
        broker := session.broker.attach ackDeadline
        records := session.records ++ [.attached session.broker.feeds.length] }
  | .send context envelopes =>
      let (result, broker) := session.broker.send (session.cancelled.contains context) envelopes
      { session with
        broker
        records := session.records ++
          match result with
          | .ok _ => [.sent session.broker.nextId envelopes]
          | .error _ => [] }
  | .receive place context requested =>
      { session with calls := { place, context, receiver := { requested } } :: session.calls }
  | .acknowledge place context ids =>
      session.settle place context ids Feed.acknowledge (.acknowledged place)
  | .refuse place context ids => session.settle place context ids Feed.refuse (.refused place)
  | .cancel context => { session with cancelled := context :: session.cancelled }
  | .abandon index => { session with calls := session.calls.eraseIdx index }
  | .close => { session with broker := session.broker.close }
  | .closeFeed place => { session with broker := session.broker.closeFeed place }
  | .elapse nanos => { session with now := session.now + nanos }
  | .turn index contextFirst =>
      match session.calls[index]? with
      | none => session
      | some call =>
          match session.broker.feed? call.place with
          | none => session
          | some feed => session.turn contextFirst (session.calls.eraseIdx index) feed call

/-- Make moves, one after the other. -/
def run (session : Session) (moves : List Move) : Session := moves.foldl step session

end Session

/-- The session of a new broker after a list of moves. -/
def sessionOf (moves : List Move) : Session := Session.run {} moves

theorem sessionOf_append_singleton (moves : List Move) (move : Move) :
    sessionOf (moves ++ [move]) = (sessionOf moves).step move := by
  simp [sessionOf, Session.run]

end Broker
end PubSub
