import PubSub.Batch.Batcher
import PubSub.Message.Basic
import PubSub.Retry.Call

/-!
# Topics

A topic sends messages through a driver in batches. Each batch is one retried call;
its result answers every sender of the batch. The first permanent error of a driver
call stays with the topic and answers every later sender, until the topic is shut
down: from then on every call is answered with that.

The functions here are what the batch handler and a shutdown do to a topic; the tasks in
`Topic.Tasks` put them in order.
-/

namespace PubSub

/-- The shared state of a topic. -/
structure Topic where
  batcher : Batcher Envelope
  /-- The error that answers every sender from now on. -/
  sticky : Option Error := none
  retry : Backoff
  /-- How the driver judges its errors. -/
  classification : Classification
  /-- Whether the context of the driver calls is cancelled. -/
  backgroundEnded : Bool := false
  deriving Inhabited

namespace Topic

def component : String := "topic"

def operation : String := "send_batch"

/-- A topic that nobody has used. -/
def create
    (batching : BatchOptions)
    (retry : Backoff)
    (classification : Classification) : Topic :=
  { batcher := Batcher.create batching, retry, classification }

/-- How the driver call of a batch is retried. -/
def plan (topic : Topic) : RetryPlan :=
  { component, operation, policy := topic.retry, classification := topic.classification }

/-- What a sender is told by the batcher that its message went to. -/
def senderResult : Outcome Unit → Outcome Unit
  | .error .batcherShutdown => .error .topicShutdown
  | result => result

/-- The driver call of a batch failed: the first permanent error stays. -/
def recordFailure (topic : Topic) (error : Error) : Topic :=
  if error.isCanceled || topic.sticky.isSome then topic
  else { topic with sticky := some error }

/-- Begin to shut down; only the first call succeeds. -/
def beginShutdown (topic : Topic) : Outcome Topic :=
  if topic.sticky = some .topicShutdown then .error .topicShutdown
  else .ok { topic with sticky := some .topicShutdown }

/-- End the context of the driver calls. -/
def endBackground (topic : Topic) : Topic := { topic with backgroundEnded := true }

/-- The result of a shutdown, from the result of closing the driver. -/
def shutdownResult
    (topic : Topic)
    (cancelled : Bool) : Except Fault Unit → Outcome Unit
  | .error fault => .error (.driver (topic.classification.codeOf fault) fault)
  | .ok _ => if cancelled then .error .canceled else .ok ()

def shutdownEvent (result : Outcome Unit) : Event :=
  Event.shutdownFinished .topicShutdown component
    (match result with
      | .ok _ => none
      | .error error => some error.message)

def dispatchedEvent (size : Nat) : Event := Event.batchDispatched component operation size

def failedEvent (size : Nat) (error : Error) : Event :=
  Event.batchFailed component operation size error.message

/-- Cancellation of a batch never stays with the topic. -/
@[simp] theorem recordFailure_canceled (topic : Topic) :
    topic.recordFailure .canceled = topic := rfl

end Topic
end PubSub
