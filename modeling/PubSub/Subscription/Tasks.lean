import PubSub.Closing
import PubSub.Retry.Group
import PubSub.Subscription.Basic

/-!
# Tasks on a subscription

A receiver takes a message off the queue, or waits for the background receive in
flight and tries again. A background receive is a group of retried driver calls; it
stores what all of them returned together and then wakes the receivers that wait for
it. The handler of a batch of acknowledgments announces the batch, makes one retried
driver call for the acknowledgments and one for the refusals, keeps a permanent error,
and goes on. A shutdown is described in `Closing`.

A background receive whose driver call ends abnormally ends without a trace in the
subscription: nothing is stored and nobody is woken.
-/

namespace PubSub
namespace Subscription

/-- One of the two driver calls of a batch of acknowledgments. -/
structure AckCall where
  /-- Whether the messages are acknowledged and not refused. -/
  isAck : Bool
  ids : List AckId
  deriving DecidableEq

def AckCall.operation (call : AckCall) : String :=
  if call.isAck then ackOperation else nackOperation

/-- Where a background receive stands. -/
inductive Fetch
  /-- At its driver calls, each with the largest number of messages it asks for. -/
  | calling (number : Nat) (calls : Retry.Group Nat (List Envelope))
  /-- The driver calls are over and their result is about to be stored. -/
  | storing (number : Nat) (result : Outcome (List Envelope))
  /-- The result is stored, and the receivers that wait for it are about to be woken. -/
  | waking (number : Nat)

/-- What tasks on a subscription ask for. -/
inductive Effect
  | publish (event : Event)
  | batching (effect : BatchEffect AckRequest)
  /-- Start the background receive of a number with driver calls of these sizes. -/
  | startFetch (number : Nat) (sizes : List Nat)
  /-- Ask the driver for messages, for the call at a place of a background receive. -/
  | receiveBatch (fetch place requested : Nat)
  /-- Ask the driver to acknowledge or to refuse messages, for the call at a place of a
  batch. -/
  | sendAcks (batch : List (Entry AckRequest)) (place : Nat) (call : AckCall)
  | close

variable {Number : Type} [Scalar Number]

/-- A turn on the acknowledgments of a subscription. -/
def onAcks {Task : Type}
    (subscription : Subscription Number)
    (turn : Turn (Batcher AckRequest) Task Unit (BatchEffect AckRequest)) :
    Turn (Subscription Number) Task Unit Effect :=
  turn.map (fun acks => { subscription with acks := some acks }) id id .batching

/-! ## Receivers -/

/-- Where a receiver stands. -/
inductive Receiver
  | asking
  /-- Waits for the end of the background receive of a number. -/
  | awaiting (fetch : Nat)
  deriving DecidableEq

/-- Announce a background receive and start it. -/
def fetchEffects (subscription : Subscription Number) : Option (Nat × Nat) → List Effect
  | none => []
  | some (number, size) =>
      [.publish (sizeEvent size),
        .startFetch number (subscription.requestSizes size)]

def afterReceive (subscription : Subscription Number) :
    ReceiveMove → Next Receiver (Outcome Message)
  | .failed error => .done (.error error)
  | .delivered envelope => .done (.ok (subscription.wrap envelope))
  | .await fetch => .continue (.awaiting fetch)
  | .again => .continue .asking

def Receiver.step (moment : Moment) (cancelled : Bool) (subscription : Subscription Number) :
    Receiver → Turn (Subscription Number) Receiver (Outcome Message) Effect
  | .asking =>
      let step := subscription.receive cancelled moment.now
      { state := step.subscription
        next := subscription.afterReceive step.move
        effects := subscription.fetchEffects step.fetch }
  | .awaiting fetch =>
      let canceled : Next Receiver (Outcome Message) := .done (.error .canceled)
      let next :=
        if cancelled && moment.contextFirst then canceled
        else if subscription.hasEnded fetch then .continue .asking
        else if cancelled then canceled
        else .wait (.awaiting fetch)
      { state := subscription, next }

/-! ## Background receives -/

namespace Fetch

/-- A background receive that is about to make driver calls of these sizes. -/
def ofSizes (number : Nat) (sizes : List Nat) : Fetch := .calling number (.ofRequests sizes)

/-- The place of the driver call that is awaited, if there is one. -/
def awaited? : Fetch → Option Nat
  | .calling _ calls => calls.awaited?
  | .storing .. => none
  | .waking _ => none

/-- A turn of a background receive, whose awaited driver call has come to an answer. -/
def step
    (moment : Moment)
    (answer : Answer (Except Fault (List Envelope)))
    (subscription : Subscription Number) :
    Fetch → Turn (Subscription Number) Fetch Unit Effect
  | .calling number calls =>
      let plan (_ : Nat) : RetryPlan := subscription.plan receiveOperation
      match calls.step plan subscription.backgroundEnded moment answer with
      | .wait later => { state := subscription, next := .wait (.calling number later) }
      | .continue later => { state := subscription, next := .continue (.calling number later) }
      | .call place requested later =>
          { state := subscription
            next := .continue (.calling number later)
            effects := [.receiveBatch number place requested] }
      | .announce event later =>
          { state := subscription
            next := .continue (.calling number later)
            effects := [.publish event] }
      | .finish (.ok fetched) =>
          { state := subscription
            next := .continue (.storing number (subscription.checkFetched fetched.flatten)) }
      | .finish (.error error) =>
          { state := subscription, next := .continue (.storing number (.error error)) }
      | .crash _ => { state := subscription, next := .done () }
  | .storing number result =>
      { state := subscription.fetchEnded moment.now result, next := .continue (.waking number) }
  | .waking number => { state := subscription.wake number, next := .done () }

end Fetch

/-! ## Acknowledgment handlers -/

/-- The driver calls of a batch: one for the acknowledgments and one for the refusals, if
there are any. -/
def ackCalls (requests : List AckRequest) : List AckCall :=
  [⟨true, ackIds requests⟩, ⟨false, nackIds requests⟩].filter fun call => !call.ids.isEmpty

/-- Where the handler of a batch stands. -/
inductive Handler
  | announcing (batch : List (Entry AckRequest))
  | calling (batch : List (Entry AckRequest)) (calls : Retry.Group AckCall Unit)
  /-- The driver calls have failed, which is announced and about to be recorded. -/
  | failing (batch : List (Entry AckRequest)) (error : Error)
  /-- The driver calls are over; these items have not got the result yet. -/
  | answering (left : List (Entry AckRequest)) (result : Outcome Unit)

namespace Handler

/-- The place of the driver call that is awaited, if there is one. -/
def awaited? : Handler → Option Nat
  | .calling _ calls => calls.awaited?
  | .announcing _ => none
  | .failing .. => none
  | .answering .. => none

/-- The driver calls of a batch failed, which is announced. -/
def failed (subscription : Subscription Number) (batch : List (Entry AckRequest)) (error : Error) :
    Turn (Subscription Number) Handler Unit Effect :=
  { state := subscription
    next := .continue (.failing batch error)
    effects :=
      .publish (failedEvent batch.length error)
        :: if error.isCanceled then [] else [.publish (storedEvent error)] }

/-- The failure of a batch is recorded. Cancellation is reported but not kept. -/
def recorded
    (subscription : Subscription Number)
    (batch : List (Entry AckRequest))
    (error : Error) : Turn (Subscription Number) Handler Unit Effect :=
  { state := if error.isCanceled then subscription else subscription.recordAckFailure error
    next := .continue (.answering batch (.error error)) }

/-- A batch has been taken care of. -/
def answered
    (subscription : Subscription Number)
    (left : List (Entry AckRequest))
    (result : Outcome Unit) : Turn (Subscription Number) Handler Unit Effect :=
  match subscription.acks with
  | none => { state := subscription, next := .done () }
  | some acks =>
      subscription.onAcks (acks.handOver left result (.answering · result) .announcing)

/-- A turn of the handler of a batch, whose awaited driver call has come to an answer. -/
def step
    (moment : Moment)
    (answer : Answer (Except Fault Unit))
    (subscription : Subscription Number) :
    Handler → Turn (Subscription Number) Handler Unit Effect
  | .announcing batch =>
      { state := subscription
        next := .continue (.calling batch (.ofRequests (ackCalls (batch.map Entry.item))))
        effects := [.publish (dispatchedEvent batch.length)] }
  | .calling batch calls =>
      let plan (call : AckCall) : RetryPlan := subscription.plan call.operation
      match calls.step plan subscription.backgroundEnded moment answer with
      | .wait later => { state := subscription, next := .wait (.calling batch later) }
      | .continue later => { state := subscription, next := .continue (.calling batch later) }
      | .call place call later =>
          { state := subscription
            next := .continue (.calling batch later)
            effects := [.sendAcks batch place call] }
      | .announce event later =>
          { state := subscription
            next := .continue (.calling batch later)
            effects := [.publish event] }
      | .finish (.ok _) =>
          { state := subscription, next := .continue (.answering batch (.ok ())) }
      | .finish (.error error) => failed subscription batch error
      | .crash _ =>
          { state := subscription
            next := .continue (.answering batch (.error .handlerPanicked)) }
  | .failing batch error => recorded subscription batch error
  | .answering left result => answered subscription left result

end Handler

/-! ## Timers and shutdowns -/

def lingerStep (moment : Moment) (subscription : Subscription Number) (wakeAt : Nat) :
    Turn (Subscription Number) Nat Unit Effect :=
  match subscription.acks with
  | none => { state := subscription, next := .done () }
  | some acks => subscription.onAcks (acks.lingerStep moment wakeAt)

/-- A turn of a flush of the acknowledgments; without any there is nothing to wait for. -/
def flushStep (moment : Moment) (subscription : Subscription Number) (flush : Batcher.Flush) :
    Turn (Subscription Number) Batcher.Flush Unit Effect :=
  match subscription.acks with
  | none => { state := subscription, next := .done () }
  | some acks => subscription.onAcks (flush.step moment acks)

/-- How a subscription is shut down. -/
def closable (moment : Moment) : Closable (Subscription Number) Effect :=
  { beginShutdown
    flush := flushStep moment
    endBackground
    shutdownResult
    shutdownEvent
    publish := .publish
    close := .close }

def closingStep
    (moment : Moment)
    (cancelled : Bool)
    (answer : Answer (Except Fault Unit))
    (subscription : Subscription Number)
    (closing : Closing) : Turn (Subscription Number) Closing Closed Effect :=
  closing.step (closable moment) moment cancelled answer subscription

end Subscription
end PubSub
