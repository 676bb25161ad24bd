import PubSub.Duration

/-!
# Events

An event says what happened in a topic, a subscription or one of their helpers.
Its kind says what; every other field is optional. Delays are kept in whole
milliseconds and stop at the largest 32-bit word.
-/

namespace PubSub

/-- What an event is about. -/
inductive EventKind
  | batchDispatched
  | batchFailed
  | retryScheduled
  | batchSizeUpdated
  | ackErrorStored
  | messageNotAcked
  | topicShutdown
  | subscriptionShutdown
  | subscriberPanicked
  | subscriberOverflow
  deriving DecidableEq, Inhabited

namespace EventKind

def name : EventKind → String
  | .batchDispatched => "BatchDispatched"
  | .batchFailed => "BatchFailed"
  | .retryScheduled => "RetryScheduled"
  | .batchSizeUpdated => "BatchSizeUpdated"
  | .ackErrorStored => "AckErrorStored"
  | .messageNotAcked => "MessageNotAcked"
  | .topicShutdown => "TopicShutdown"
  | .subscriptionShutdown => "SubscriptionShutdown"
  | .subscriberPanicked => "SubscriberPanicked"
  | .subscriberOverflow => "SubscriberOverflow"

def all : List EventKind :=
  [.batchDispatched, .batchFailed, .retryScheduled, .batchSizeUpdated, .ackErrorStored,
    .messageNotAcked, .topicShutdown, .subscriptionShutdown, .subscriberPanicked,
    .subscriberOverflow]

def ofName? (name : String) : Option EventKind := all.find? (·.name == name)

@[simp] theorem ofName?_name (kind : EventKind) : ofName? kind.name = some kind := by
  cases kind <;> decide

end EventKind

/-- A runtime event. -/
structure Event where
  kind : EventKind
  /-- The emitting component, or the name of a subscriber. -/
  component : Option String := none
  operation : Option String := none
  /-- The number of the failed attempt, from one. -/
  attempt : Option Nat := none
  /-- The delay before the next attempt, in milliseconds. -/
  delayMillis : Option Nat := none
  /-- How many items are involved. -/
  batchSize : Option Nat := none
  /-- Why it happened. -/
  reason : Option String := none
  deriving DecidableEq, Inhabited

namespace Event

/-- Distance between the sequence numbers of consecutive events. -/
def sequenceStep : Nat := 1

/-- A delay in whole milliseconds, at most the largest 32-bit word. -/
def delayField (delay : Duration) : Nat := min delay.wholeMillis maxHalfWord

/-- A batch was handed to its handler. -/
def batchDispatched (component operation : String) (size : Nat) : Event :=
  { kind := .batchDispatched, component, operation, batchSize := size }

/-- The handler of a batch returned an error. -/
def batchFailed (component operation : String) (size : Nat) (reason : String) : Event :=
  { kind := .batchFailed, component, operation, batchSize := size, reason }

/-- A driver call failed and is going to be repeated. -/
def retryScheduled
    (component operation : String)
    (attempt : Nat)
    (delay : Duration)
    (reason : String) : Event :=
  { kind := .retryScheduled, component, operation, attempt,
    delayMillis := delayField delay, reason }

/-- The size of the next background receive was chosen. -/
def batchSizeUpdated (component : String) (size : Nat) : Event :=
  { kind := .batchSizeUpdated, component, batchSize := size }

def ackErrorStored (component reason : String) : Event :=
  { kind := .ackErrorStored, component, reason }

/-- A received message was dropped before it was acknowledged or refused. -/
def messageNotAcked (component : String) : Event :=
  { kind := .messageNotAcked, component }

/-- A topic or a subscription finished its shutdown, with an error if there is a reason. -/
def shutdownFinished (kind : EventKind) (component : String) (reason : Option String) : Event :=
  { kind, component, reason }

def subscriberOverflow (subscriber reason : String) : Event :=
  { kind := .subscriberOverflow, component := subscriber,
    reason := "subscriber=" ++ subscriber ++ " reason=" ++ reason }

/-- A subscriber ended abnormally while it handled an event. -/
def subscriberPanicked (subscriber info : String) : Event :=
  { kind := .subscriberPanicked, component := subscriber, reason := info }

def isOverflow (event : Event) : Bool := event.kind == .subscriberOverflow

/-- Whether the event reports a subscriber that ended abnormally. -/
def isPanic (event : Event) : Bool := event.kind == .subscriberPanicked

/-- A field of an event in one line: a blank, its name and its value; nothing if unset. -/
def fieldText (name : String) : Option String → String
  | none => ""
  | some value => " " ++ name ++ "=" ++ value

/-- One line for an event: its kind and the fields that are set. -/
def line (event : Event) : String :=
  event.kind.name
    ++ fieldText "component" event.component
    ++ fieldText "op" event.operation
    ++ fieldText "attempt" (event.attempt.map Nat.repr)
    ++ fieldText "delay_ms" (event.delayMillis.map Nat.repr)
    ++ fieldText "batch_size" (event.batchSize.map Nat.repr)
    ++ fieldText "reason" event.reason

end Event
end PubSub
