import PubSub.Event.Basic

/-!
# Log lines of events

A log line has a level, a message and named fields. The level and the fields
depend on the kind of the event only. A missing component or operation is shown
as a dash, a missing reason as the empty text, and an optional number with the
word `Some` or `None`.
-/

namespace PubSub

/-- How much attention a log line asks for. -/
inductive LogLevel
  | trace
  | debug
  | info
  | warn
  | error
  deriving DecidableEq

namespace LogLevel

def name : LogLevel → String
  | .trace => "TRACE"
  | .debug => "DEBUG"
  | .info => "INFO"
  | .warn => "WARN"
  | .error => "ERROR"

end LogLevel

/-- One line of a log. -/
structure LogLine where
  level : LogLevel
  message : String
  fields : List (String × String)
  deriving DecidableEq

namespace LogLine

def subscriberName : String := "LogWriter"

/-- Events the log accepts before it has to catch up. -/
def queueCapacity : Nat := 1024

def optionText : Option Nat → String
  | none => "None"
  | some value => "Some(" ++ Nat.repr value ++ ")"

def ofEvent (event : Event) : LogLine :=
  let component := event.component.getD "-"
  let operation := ("op", event.operation.getD "-")
  let reason := ("reason", event.reason.getD "")
  let size := ("size", optionText event.batchSize)
  match event.kind with
  | .batchDispatched =>
      ⟨.debug, "batch dispatched", [("component", component), operation, size]⟩
  | .batchFailed =>
      ⟨.warn, "batch failed", [("component", component), operation, size, reason]⟩
  | .retryScheduled =>
      ⟨.warn, "retry scheduled",
        [("component", component), operation, ("attempt", optionText event.attempt),
          ("delay_ms", optionText event.delayMillis), reason]⟩
  | .batchSizeUpdated =>
      ⟨.trace, "receive batch size updated", [("component", component), size]⟩
  | .ackErrorStored => ⟨.warn, "ack error stored", [("component", component), reason]⟩
  | .messageNotAcked =>
      ⟨.warn, "message dropped without ack or nack", [("component", component)]⟩
  | .topicShutdown => ⟨.info, "topic shut down", [("component", component), reason]⟩
  | .subscriptionShutdown =>
      ⟨.info, "subscription shut down", [("component", component), reason]⟩
  | .subscriberOverflow =>
      ⟨.warn, "subscriber overflow", [("subscriber", component), reason]⟩
  | .subscriberPanicked =>
      ⟨.error, "subscriber panicked", [("subscriber", component), reason]⟩

end LogLine
end PubSub
