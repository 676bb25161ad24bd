import PubSub.Proofs.Batch.Session
import PubSub.Topic.Tasks

/-!
# Sessions of a topic

A session is a topic with the tasks at work on it, the time, the contexts that are cancelled,
and a record of what has happened. A move is one thing that may happen next: somebody sends a
message or shuts the topic down, a context is cancelled, time passes, a caller is dropped, or
any task takes a turn. A run is a list of moves, so a statement about every run is one about
every interleaving.

A move that gives a task its turn also says what the driver call that the task waits for has
come to, so a statement about every run is one about every driver.
-/

namespace PubSub
namespace Topic

/-- A call that sends a message. -/
structure Send where
  /-- How many calls there were before. -/
  number : Nat
  context : Nat
  message : Message
  deriving DecidableEq

/-- A task at work on a topic. -/
inductive Activity
  | sender (send : Send) (sender : Sender)
  | handler (handler : Handler)
  /-- A linger timer that goes off at a time. -/
  | timer (wakeAt : Nat)
  /-- A shutdown with the number of its context. -/
  | shutdown (context : Nat) (closing : Closing)

/-- Something that has happened. -/
inductive Record
  | published (event : Event)
  /-- The driver was asked to send a batch, and given these messages. -/
  | sent (batch : List (Entry Envelope)) (envelopes : List Envelope)
  /-- A driver call for a batch has come to an answer. -/
  | answered (batch : List (Entry Envelope)) (answer : Answer (Except Fault Unit))
  /-- Something has happened to the batcher. -/
  | batching (record : Batcher.Record Envelope)
  /-- The message of a call was accepted under a number. -/
  | entered (send : Send) (id : Nat)
  /-- A call was answered before its message was accepted. -/
  | rejected (send : Send) (error : Error)
  /-- A call whose message was accepted under a number was answered. -/
  | returned (send : Send) (id : Nat) (result : Outcome Unit)
  /-- A shutdown came first. -/
  | began (context : Nat)
  /-- A shutdown came too late. -/
  | refused (context : Nat) (error : Error)
  /-- A shutdown has not even begun to flush the batcher. -/
  | skipped (context : Nat)
  /-- The driver was asked to close. -/
  | closing
  /-- A shutdown has closed the driver, which ended as it says, and has come to its result. -/
  | closed (context : Nat) (driver : Except Fault Unit) (result : Outcome Unit)

/-- A topic with the tasks at work on it. -/
structure Session where
  topic : Topic
  activities : List Activity := []
  /-- How many calls have sent messages. -/
  sends : Nat := 0
  /-- Time in nanoseconds. -/
  now : Nat := 0
  /-- Contexts that are cancelled. -/
  cancelled : List Nat := []
  /-- Whether nobody holds the topic any more. -/
  dropped : Bool := false
  /-- What has happened, oldest first. -/
  records : List Record := []

/-- What a task finds out when it takes a turn. -/
structure Finding where
  contextFirst : Bool := false
  pick : Delays → Duration := Delays.shortest
  /-- What the awaited driver call has come to. -/
  settled : Answer (Except Fault Unit) := .running

/-- What may happen next. -/
inductive Move
  | send (context : Nat) (message : Message)
  | shutdown (context : Nat)
  | cancel (context : Nat)
  /-- The sender or the shutdown at a place is dropped. -/
  | abandon (place : Nat)
  /-- The topic is dropped. -/
  | drop
  | elapse (nanos : Nat)
  /-- The task at a place takes a turn. -/
  | turn (place : Nat) (finding : Finding)

/-! ## What a turn leaves behind -/

/-- The tasks that have to be started. -/
def startedBy (effects : List Effect) : List Activity :=
  effects.filterMap fun
    | .batching (.startHandler batch) => some (.handler (.announcing batch))
    | .batching (.startLinger wakeAt) => some (.timer wakeAt)
    | _ => none

/-- What a task that works on a batch has asked for; what it wants of the batcher shows there. -/
def Effect.record? (batch : List (Entry Envelope)) : Effect → Option Record
  | .publish event => some (.published event)
  | .batching _ => none
  | .sendBatch envelopes => some (.sent batch envelopes)
  | .close => some .closing

/-- What a sender is to the batcher. -/
def Sender.adding? : Sender → Option (Batcher.Adding Envelope)
  | .adding task => some task
  | _ => none

/-- What a sender did to the batcher in a turn. -/
def Sender.onBatcher
    (moment : Moment)
    (cancelled : Bool)
    (context : Nat)
    (batcher : Batcher Envelope)
    (sender : Sender) : List (Batcher.Record Envelope) :=
  match sender.adding? with
  | none => []
  | some task =>
      let turn := task.step moment cancelled batcher
      task.records context batcher turn.state turn.next ++ Batcher.takenBy turn.effects

/-- What a sender did in a turn, apart from that. -/
def Sender.records (send : Send) : Sender → Next Sender (Outcome Unit) → List Record
  | .adding (.entering ..), .continue (.adding (.awaiting id)) => [.entered send id]
  | .adding (.awaiting id), .done result => [.returned send id result]
  | _, .done (.error error) => [.rejected send error]
  | _, _ => []

/-- What the handler of a batch is to the batcher. -/
def Handler.handling : Handler → Batcher.Handling Envelope
  | .announcing batch => .starting batch
  | .calling batch _ => .working batch
  | .answering left result => .answering left result

/-- The driver call that a handler waits for has come to an answer. -/
def Handler.heard (answer : Answer (Except Fault Unit)) : Handler → List Record
  | .calling batch (.calling _) =>
      match answer with
      | .running => []
      | _ => [.answered batch answer]
  | _ => []

/-- What the handler of a batch did to the batcher in a turn. -/
def Handler.onBatcher : Handler → Next Handler Unit → List (Batcher.Record Envelope)
  | .announcing batch, _ => [.called batch]
  | .calling batch _, .continue (.answering _ result) => [.ended batch (.returned result)]
  | .answering .., .continue (.announcing batch) => [.taken batch]
  | _, _ => []

/-- What a shutdown did to the batcher in a turn. -/
def flushRecords
    (moment : Moment)
    (cancelled : Bool)
    (batcher : Batcher Envelope) : Closing → List (Batcher.Record Envelope)
  | .flushing flush =>
      if cancelled && moment.contextFirst then []
      else
        let turn := flush.step moment batcher
        Batcher.Flush.records turn.next ++ Batcher.takenBy turn.effects
  | _ => []

/-- What a shutdown did in a turn, apart from that. -/
def closingRecords (context : Nat) (answer : Answer (Except Fault Unit)) :
    Closing → Next Closing Closed → List Record
  | .begin, .continue _ => [.began context]
  | .flushing .starting, .continue .calling => [.skipped context]
  | _, .done (.refused error) => [.refused context error]
  | _, .done (.closed result) =>
      match answer with
      | .returned driver => [.closed context driver result]
      | _ => []
  | _, _ => []

/-- Whether a task borrows the topic, so that it cannot be dropped. -/
def Activity.isCaller : Activity → Bool
  | .sender .. => true
  | .shutdown .. => true
  | _ => false

namespace Session

/-- What a task finds around it. -/
def moment (session : Session) (finding : Finding) : Moment :=
  { now := session.now, contextFirst := finding.contextFirst, pick := finding.pick }

/-- The session after a turn of a task; the others are left alone. -/
def resume {Task Result : Type}
    (session : Session)
    (others : List Activity)
    (wrap : Task → Activity)
    (happened : List Record)
    (turn : Turn Topic Task Result Effect) : Session :=
  { session with
    topic := turn.state
    activities := startedBy turn.effects ++ (turn.next.tasks.map wrap ++ others)
    records := session.records ++ happened }

/-- A task takes a turn among others. -/
def turn (session : Session) (finding : Finding) (others : List Activity) : Activity → Session
  | .sender send sender =>
      let cancelled := session.cancelled.contains send.context
      let turn := sender.step (session.moment finding) cancelled session.topic
      session.resume others (.sender send)
        ((sender.onBatcher (session.moment finding) cancelled send.context
            session.topic.batcher).map .batching
          ++ sender.records send turn.next) turn
  | .handler handler =>
      let turn := handler.step (session.moment finding) finding.settled session.topic
      session.resume others .handler
        (handler.heard finding.settled
          ++ turn.effects.filterMap (Effect.record? handler.handling.batch)
          ++ (handler.onBatcher turn.next).map .batching) turn
  | .timer wakeAt =>
      let turn := session.topic.lingerStep (session.moment finding) wakeAt
      session.resume others .timer
        ((Batcher.takenBy
          (session.topic.batcher.lingerStep (session.moment finding) wakeAt).effects).map .batching)
        turn
  | .shutdown context closing =>
      let cancelled := session.cancelled.contains context
      let turn := closingStep (session.moment finding) cancelled finding.settled session.topic
        closing
      session.resume others (.shutdown context)
        ((flushRecords (session.moment finding) cancelled session.topic.batcher closing).map
            .batching
          ++ closingRecords context finding.settled closing turn.next
          ++ turn.effects.filterMap (Effect.record? [])) turn

/-- Make a move. A move that nothing at its place can make has no effect. -/
def step (session : Session) : Move → Session
  | .send context message =>
      if session.dropped then session
      else
        { session with
          activities :=
            .sender { number := session.sends, context, message } (.sending message)
              :: session.activities
          sends := session.sends + 1 }
  | .shutdown context =>
      if session.dropped then session
      else { session with activities := .shutdown context .begin :: session.activities }
  | .cancel context => { session with cancelled := context :: session.cancelled }
  | .abandon place =>
      match session.activities[place]? with
      | none => session
      | some activity =>
          if activity.isCaller then
            { session with activities := session.activities.eraseIdx place }
          else session
  | .drop =>
      if session.activities.any Activity.isCaller then session
      else { session with topic := session.topic.endBackground, dropped := true }
  | .elapse nanos => { session with now := session.now + nanos }
  | .turn place finding =>
      match session.activities[place]? with
      | none => session
      | some activity => session.turn finding (session.activities.eraseIdx place) activity

/-- Make moves, one after the other. -/
def run (session : Session) (moves : List Move) : Session := moves.foldl step session

end Session

/-- What a topic is built from. -/
structure Setup where
  batching : BatchOptions := {}
  retry : Backoff := .immediate
  /-- How the driver judges its errors. -/
  classification : Classification :=
    { isRetryable := fun _ => false, codeOf := fun _ => .internal }

/-- A topic that nobody has used. -/
def Setup.session (setup : Setup) : Session :=
  { topic := Topic.create setup.batching setup.retry setup.classification }

/-- The session of a new topic after a list of moves. -/
def sessionOf (setup : Setup) (moves : List Move) : Session := setup.session.run moves

/-! ## What a session shows -/

@[simp] def Record.published? : Record → Option Event
  | .published event => some event
  | _ => none

@[simp] def Record.sent? : Record → Option (List (Entry Envelope) × List Envelope)
  | .sent batch envelopes => some (batch, envelopes)
  | _ => none

@[simp] def Record.batching? : Record → Option (Batcher.Record Envelope)
  | .batching record => some record
  | _ => none

@[simp] def Record.entered? : Record → Option (Send × Nat)
  | .entered send id => some (send, id)
  | _ => none

@[simp] def Record.rejected? : Record → Option (Send × Error)
  | .rejected send error => some (send, error)
  | _ => none

@[simp] def Record.returned? : Record → Option (Send × Nat × Outcome Unit)
  | .returned send id result => some (send, id, result)
  | _ => none

/-- What a task is to the batcher. -/
@[simp] def Activity.onBatcher? : Activity → Option (Batcher.Activity Envelope)
  | .sender send (.adding task) => some (.caller send.context task)
  | .handler task => some (.handler task.handling)
  | .timer wakeAt => some (.timer wakeAt)
  | .shutdown _ (.flushing flush) => some (.flush flush)
  | _ => none

namespace Session

variable (session : Session)

/-- The events that were published, oldest first. -/
@[simp] def published : List Event := session.records.filterMap Record.published?

/-- The batches that the driver was asked to send, each with the messages it was given, oldest
call first. -/
@[simp] def calls : List (List (Entry Envelope) × List Envelope) :=
  session.records.filterMap Record.sent?

/-- The calls whose messages were accepted, with the numbers of the messages, oldest first. -/
@[simp] def entered : List (Send × Nat) := session.records.filterMap Record.entered?

/-- The calls that were answered before their messages were accepted, with what they were
answered, oldest first. -/
@[simp] def rejected : List (Send × Error) := session.records.filterMap Record.rejected?

/-- The calls that were answered after that, with the numbers of their messages and with what
they were answered, oldest first. -/
@[simp] def returned : List (Send × Nat × Outcome Unit) :=
  session.records.filterMap Record.returned?

/-- The session of the batcher of a topic. -/
def batching : Batcher.Session Envelope where
  batcher := session.topic.batcher
  activities := session.activities.filterMap Activity.onBatcher?
  now := session.now
  cancelled := session.cancelled
  records := session.records.filterMap Record.batching?

@[simp] theorem batcher_batching : session.batching.batcher = session.topic.batcher := rfl

@[simp] theorem now_batching : session.batching.now = session.now := rfl

@[simp] theorem cancelled_batching : session.batching.cancelled = session.cancelled := rfl

@[simp] theorem records_batching :
    session.batching.records = session.records.filterMap Record.batching? := rfl

end Session

end Topic
end PubSub
