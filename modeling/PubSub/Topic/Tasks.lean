import PubSub.Closing
import PubSub.Topic.Basic

/-!
# Tasks on a topic

A sender looks whether an error of the topic answers it, checks its message, hands it to the
batcher and waits for the result of its batch. Other tasks may come in between. The handler
of a batch announces the batch, makes one retried driver call with it, keeps a permanent
error, and answers the senders one by one. A shutdown is described in `Closing`.

Whatever a task asks of the driver or of the bus is an effect, so a run of tasks
shows in its effects what the driver was asked and in which order.
-/

namespace PubSub
namespace Topic

/-- What tasks on a topic ask for. -/
inductive Effect
  | publish (event : Event)
  | batching (effect : BatchEffect Envelope)
  /-- Ask the driver to send messages. -/
  | sendBatch (envelopes : List Envelope)
  | close

/-- A turn on the batcher of a topic. -/
def onBatcher {Task Result Outer Whole : Type}
    (topic : Topic)
    (task : Task → Outer)
    (result : Result → Whole)
    (turn : Turn (Batcher Envelope) Task Result (BatchEffect Envelope)) :
    Turn Topic Outer Whole Effect :=
  turn.map (fun batcher => { topic with batcher }) task result .batching

/-! ## Senders -/

/-- Where a sender stands. -/
inductive Sender
  | sending (message : Message)
  /-- No error of the topic answered the sender. -/
  | checking (message : Message)
  /-- The message is with the batcher, or about to be. -/
  | adding (task : Batcher.Adding Envelope)

def Sender.step (moment : Moment) (cancelled : Bool) (topic : Topic) :
    Sender → Turn Topic Sender (Outcome Unit) Effect
  | .sending message =>
      match topic.sticky with
      | some error => { state := topic, next := .done (.error error) }
      | none => { state := topic, next := .continue (.checking message) }
  | .checking message =>
      if cancelled then { state := topic, next := .done (.error .canceled) }
      else
        match message.toEnvelope with
        | .error error => { state := topic, next := .done (.error error) }
        | .ok envelope =>
            { state := topic
              next := .continue (.adding (.entering envelope.byteSize envelope)) }
  | .adding task =>
      topic.onBatcher .adding senderResult (task.step moment cancelled topic.batcher)

/-! ## Batch handlers -/

/-- Where the handler of a batch stands. -/
inductive Handler
  | announcing (batch : List (Entry Envelope))
  | calling (batch : List (Entry Envelope)) (phase : Retry.Phase)
  /-- The driver call is over; these senders have not got its result yet. -/
  | answering (left : List (Entry Envelope)) (result : Outcome Unit)

namespace Handler

/-- The driver call of a batch failed for good. -/
def failed (topic : Topic) (batch : List (Entry Envelope)) (error : Error) :
    Turn Topic Handler Unit Effect :=
  { state := topic.recordFailure error
    next := .continue (.answering batch (.error error))
    effects := [.publish (failedEvent batch.length error)] }

/-- A turn of the handler of a batch, whose driver call has come to an answer. -/
def step (moment : Moment) (answer : Answer (Except Fault Unit)) (topic : Topic) :
    Handler → Turn Topic Handler Unit Effect
  | .announcing batch =>
      { state := topic
        next := .continue (.calling batch (.starting 0))
        effects := [.publish (dispatchedEvent batch.length)] }
  | .calling batch phase =>
      match phase.step topic.plan topic.backgroundEnded moment answer with
      | .wait => { state := topic, next := .wait (.calling batch phase) }
      | .call failures =>
          { state := topic
            next := .continue (.calling batch (.calling failures))
            effects := [.sendBatch (batch.map Entry.item)] }
      | .announce event next =>
          { state := topic
            next := .continue (.calling batch next)
            effects := [.publish event] }
      | .continue next => { state := topic, next := .continue (.calling batch next) }
      | .finish (.ok _) => { state := topic, next := .continue (.answering batch (.ok ())) }
      | .finish (.error error) => failed topic batch error
      | .crash _ =>
          { state := topic, next := .continue (.answering batch (.error .handlerPanicked)) }
  | .answering left result =>
      topic.onBatcher id id (topic.batcher.handOver left result (.answering · result) .announcing)

end Handler

/-! ## Timers and shutdowns -/

def lingerStep (moment : Moment) (topic : Topic) (wakeAt : Nat) :
    Turn Topic Nat Unit Effect :=
  topic.onBatcher id id (topic.batcher.lingerStep moment wakeAt)

/-- How a topic is shut down. -/
def closable (moment : Moment) : Closable Topic Effect :=
  { beginShutdown
    flush := fun topic flush => topic.onBatcher id id (flush.step moment topic.batcher)
    endBackground
    shutdownResult := fun topic cancelled closed =>
      (topic.shutdownResult cancelled closed, topic)
    shutdownEvent
    publish := .publish
    close := .close }

def closingStep
    (moment : Moment)
    (cancelled : Bool)
    (answer : Answer (Except Fault Unit))
    (topic : Topic)
    (closing : Closing) : Turn Topic Closing Closed Effect :=
  closing.step (closable moment) moment cancelled answer topic

end Topic
end PubSub
