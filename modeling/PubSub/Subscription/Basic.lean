import PubSub.Batch.Batcher
import PubSub.Message.Basic
import PubSub.Prefetch.Estimator
import PubSub.Retry.Call

/-!
# Subscriptions

A subscription keeps a local queue of messages that a background receive fills
ahead of time, and acknowledges messages in batches. At most one background receive
is in flight; it may consist of several concurrent driver calls. A receiver that
finds the queue empty waits for the receive in flight.

The first permanent error, of a receive or of an acknowledgment, stays with the
subscription and answers every later receiver, until the subscription is shut down.
An acknowledgment error that no receiver was told is told by the shutdown.

The functions here are the uninterrupted steps of receiving, of the background
receive, of the acknowledgment handler and of shutting down; the tasks in
`Subscription.Tasks` put them in order.
-/

namespace PubSub

/-- The shared state of a subscription. -/
structure Subscription (Number : Type) where
  /-- Messages that were fetched and not yet received, oldest first. -/
  queue : List Envelope := []
  /-- The error that answers every receiver from now on. -/
  sticky : Option Error := none
  /-- An acknowledgment error that no receiver was told. -/
  unreported : Option Error := none
  /-- Number of the background receive in flight. -/
  receiving : Option Nat := none
  /-- How many background receives were started. -/
  fetches : Nat := 0
  /-- Background receives whose end the receivers were told, newest first. -/
  woken : List Nat := []
  estimator : Estimator Number
  receiveOptions : BatchOptions
  retry : Backoff
  /-- How the driver judges its errors. -/
  classification : Classification
  /-- Acknowledgments on their way; none if messages are delivered at most once. -/
  acks : Option (Batcher AckRequest)
  /-- Whether the context of the driver calls is cancelled. -/
  backgroundEnded : Bool := false
  deriving Inhabited

/-- What a receiver does next. -/
inductive ReceiveMove
  | failed (error : Error)
  | delivered (envelope : Envelope)
  /-- Wait until the background receive of this number has ended. -/
  | await (fetch : Nat)
  /-- Try again without waiting. -/
  | again

/-- A step of a receiver. -/
structure ReceiveStep (Number : Type) where
  subscription : Subscription Number
  /-- Number and size of a background receive that has to be started. -/
  fetch : Option (Nat × Nat)
  move : ReceiveMove

namespace Subscription

def component : String := "subscription"

/-- The driver operation that fetches messages. -/
def receiveOperation : String := "receive_batch"

/-- The driver operation that acknowledges messages. -/
def ackOperation : String := "send_acks"

/-- The driver operation that refuses messages. -/
def nackOperation : String := "send_nacks"

variable {Number : Type} [Scalar Number]

/-- A subscription that nobody has used. -/
def create
    (tuning : Tuning Number)
    (receiving acknowledging : BatchOptions)
    (retry : Backoff)
    (classification : Classification)
    (atMostOnce : Bool) : Subscription Number :=
  { estimator := Estimator.create tuning receiving
    receiveOptions := receiving
    retry
    classification
    acks := if atMostOnce then none else some (Batcher.create acknowledging) }

/-- How a driver call is retried. -/
def plan (subscription : Subscription Number) (operation : String) : RetryPlan :=
  { component
    operation
    policy := subscription.retry
    classification := subscription.classification }

/-! ## Receiving -/

/-- Choose the size of a background receive, if the queue is short and none is in
flight. -/
def prefetch (subscription : Subscription Number) (now : Nat) :
    Option (Nat × Nat) × Subscription Number :=
  if subscription.receiving.isNone
      && subscription.estimator.wantsPrefetch subscription.queue.length then
    let sized := subscription.estimator.nextSize now subscription.queue.length
    (some (subscription.fetches, sized.1),
      { subscription with
        estimator := sized.2
        receiving := some subscription.fetches
        fetches := subscription.fetches + 1 })
  else (none, subscription)

/-- Take the oldest message of the queue, or find out what to wait for. -/
def takeQueued (subscription : Subscription Number) (now : Nat) :
    ReceiveMove × Subscription Number :=
  match subscription.queue with
  | envelope :: rest =>
      (.delivered envelope,
        { subscription with
          queue := rest
          estimator := subscription.estimator.recordDelivery })
  | [] =>
      (match subscription.receiving with
        | some fetch => .await fetch
        | none => .again,
        { subscription with estimator := subscription.estimator.recordEmpty now })

def receive (subscription : Subscription Number) (cancelled : Bool) (now : Nat) :
    ReceiveStep Number :=
  match subscription.sticky with
  | some error =>
      { subscription := { subscription with unreported := none }
        fetch := none
        move := .failed error }
  | none =>
      if cancelled then { subscription, fetch := none, move := .failed .canceled }
      else
        let started := subscription.prefetch now
        let taken := started.2.takeQueued now
        { subscription := taken.2, fetch := started.1, move := taken.1 }

/-- The token put on a message: the driver's own, or none of any driver. -/
def ackIdOf (envelope : Envelope) : AckId := envelope.ackId.getD .placeholder

/-- The message a receiver gets. -/
def wrap (subscription : Subscription Number) (envelope : Envelope) : Message :=
  Message.ofEnvelope envelope
    (if subscription.acks.isSome then .request (ackIdOf envelope) else .hook)

/-! ## The background receive -/

/-- The sizes of the concurrent driver calls of a background receive. -/
def requestSizes (subscription : Subscription Number) (size : Nat) : List Nat :=
  subscription.receiveOptions.split (max size subscription.receiveOptions.lowerLimit)

/-- Check what the driver calls returned together. -/
def checkFetched (subscription : Subscription Number) (fetched : List Envelope) :
    Outcome (List Envelope) :=
  if subscription.acks.isSome && fetched.any (·.ackId.isNone) then .error .missingAckId
  else .ok fetched

/-- Store the result of a background receive. -/
def storeFetched
    (subscription : Subscription Number)
    (now : Nat) : Outcome (List Envelope) → Subscription Number
  | .ok [] => subscription
  | .ok (envelope :: rest) =>
      { subscription with
        queue := subscription.queue ++ envelope :: rest
        estimator := subscription.estimator.recordArrival now }
  | .error error =>
      if subscription.sticky.isSome then subscription
      else { subscription with sticky := some error }

/-- A background receive has ended. -/
def fetchEnded
    (subscription : Subscription Number)
    (now : Nat)
    (result : Outcome (List Envelope)) : Subscription Number :=
  { subscription.storeFetched now result with receiving := none }

/-- Tell the receivers that wait for a background receive that it has ended. -/
def wake (subscription : Subscription Number) (fetch : Nat) : Subscription Number :=
  { subscription with woken := fetch :: subscription.woken }

/-- Whether the receivers that wait for a background receive were told that it has ended. -/
def hasEnded (subscription : Subscription Number) (fetch : Nat) : Bool :=
  subscription.woken.contains fetch

/-! ## Acknowledging -/

/-- The tokens of the acknowledgments of a batch. -/
def ackIds (requests : List AckRequest) : List AckId :=
  (requests.filter AckRequest.isAck).map AckRequest.id

/-- The tokens of the refusals of a batch. -/
def nackIds (requests : List AckRequest) : List AckId :=
  (requests.filter fun request => !request.isAck).map AckRequest.id

/-- The driver calls of a batch of acknowledgments failed permanently. -/
def recordAckFailure (subscription : Subscription Number) (error : Error) :
    Subscription Number :=
  { subscription with
    sticky := if subscription.sticky.isSome then subscription.sticky else some error
    unreported := some error }

/-! ## Shutting down -/

/-- Begin to shut down; only the first call succeeds. -/
def beginShutdown (subscription : Subscription Number) : Outcome (Subscription Number) :=
  if subscription.sticky = some .subscriptionShutdown then .error .subscriptionShutdown
  else .ok { subscription with sticky := some .subscriptionShutdown }

/-- End the context of the driver calls. -/
def endBackground (subscription : Subscription Number) : Subscription Number :=
  { subscription with backgroundEnded := true }

/-- The result of a shutdown, from the result of closing the driver. An acknowledgment
error is told here if no receiver was told it. -/
def shutdownResult
    (subscription : Subscription Number)
    (cancelled : Bool) : Except Fault Unit → Outcome Unit × Subscription Number
  | .error fault =>
      (.error (.driver (subscription.classification.codeOf fault) fault), subscription)
  | .ok _ =>
      let after := { subscription with unreported := none }
      match subscription.unreported with
      | some error => (.error error, after)
      | none => (if cancelled then .error .canceled else .ok (), after)

def shutdownEvent (result : Outcome Unit) : Event :=
  Event.shutdownFinished .subscriptionShutdown component
    (match result with
      | .ok _ => none
      | .error error => some error.message)

def dispatchedEvent (size : Nat) : Event := Event.batchDispatched component ackOperation size

def failedEvent (size : Nat) (error : Error) : Event :=
  Event.batchFailed component ackOperation size error.message

def storedEvent (error : Error) : Event := Event.ackErrorStored component error.message

def sizeEvent (size : Nat) : Event := Event.batchSizeUpdated component size

def neglectedEvent : Event := Event.messageNotAcked component

/-- A receiver that is answered with an error takes nothing from the queue. -/
theorem queue_receive_of_failed
    {subscription : Subscription Number}
    {cancelled : Bool}
    {now : Nat}
    {error : Error}
    (failed : (subscription.receive cancelled now).move = .failed error) :
    (subscription.receive cancelled now).subscription.queue = subscription.queue := by
  unfold receive at failed ⊢
  split
  · rfl
  · split
    · rfl
    · simp_all only [Bool.false_eq_true, if_false, takeQueued]
      split at failed
      · contradiction
      · split at failed <;> contradiction

end Subscription
end PubSub
