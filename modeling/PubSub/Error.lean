/-!
# Errors

Every operation fails with an `Error`. An error that comes from a driver carries
the driver's own `Fault` and the portable `ErrorCode` the driver gave it;
cancellation of the caller's context is never a driver error.

`Error.message` is the only place that words an error.
-/

namespace PubSub

/-- The portable classification of a failure. -/
inductive ErrorCode
  | unknown
  | notFound
  | alreadyExists
  | invalidArgument
  | internal
  | unimplemented
  | failedPrecondition
  | permissionDenied
  | resourceExhausted
  | canceled
  | deadlineExceeded
  deriving DecidableEq, Inhabited

namespace ErrorCode

def label : ErrorCode → String
  | .unknown => "unknown"
  | .notFound => "not_found"
  | .alreadyExists => "already_exists"
  | .invalidArgument => "invalid_argument"
  | .internal => "internal"
  | .unimplemented => "unimplemented"
  | .failedPrecondition => "failed_precondition"
  | .permissionDenied => "permission_denied"
  | .resourceExhausted => "resource_exhausted"
  | .canceled => "canceled"
  | .deadlineExceeded => "deadline_exceeded"

end ErrorCode

/-- What can go wrong in the in-memory broker. -/
inductive BrokerError
  | topicClosed
  | subscriptionClosed
  | foreignAckId
  | canceled
  deriving DecidableEq

namespace BrokerError

def message : BrokerError → String
  | .topicClosed => "mem: topic is closed"
  | .subscriptionClosed => "mem: subscription is closed"
  | .foreignAckId => "mem: ack id was not issued by this driver"
  | .canceled => "mem: context cancelled"

def code : BrokerError → ErrorCode
  | .topicClosed => .failedPrecondition
  | .subscriptionClosed => .failedPrecondition
  | .foreignAckId => .invalidArgument
  | .canceled => .canceled

end BrokerError

/-- The native error of a driver. -/
inductive Fault
  | text (message : String)
  /-- An error of a scripted driver, with its own classification. -/
  | scripted (message : String) (code : ErrorCode) (retryable : Bool)
  /-- The driver does not implement the operation. -/
  | notSupported (operation : String)
  | broker (cause : BrokerError)
  /-- A driver error of another layer, passed on as it is. -/
  | wrapped (code : ErrorCode) (cause : Fault)
  deriving DecidableEq

def driverMessage (code : ErrorCode) (cause : String) : String :=
  "pubport (" ++ code.label ++ "): " ++ cause

namespace Fault

/-- The wording of a driver's native error. -/
def message : Fault → String
  | .text message => message
  | .scripted message _ _ => message
  | .notSupported operation => operation ++ " is not supported by this driver"
  | .broker cause => cause.message
  | .wrapped code cause => driverMessage code cause.message

/-- Name of the family a native error belongs to, if it is one a caller can ask for. -/
def family : Fault → Option String
  | .text _ => none
  | .scripted .. => some "script"
  | .notSupported _ => some "not_supported"
  | .broker _ => some "mem"
  | .wrapped .. => none

end Fault

/-- The error of a topic, a subscription or a batcher. -/
inductive Error
  | invalidArgument (message : String)
  | topicShutdown
  | subscriptionShutdown
  | batcherShutdown
  | canceled
  | driver (code : ErrorCode) (cause : Fault)
  deriving DecidableEq

namespace Error

def message : Error → String
  | .invalidArgument message => "pubport: invalid argument: " ++ message
  | .topicShutdown => "pubport: topic has been shut down"
  | .subscriptionShutdown => "pubport: subscription has been shut down"
  | .batcherShutdown => "pubport: batcher has been shut down"
  | .canceled => "pubport: context cancelled"
  | .driver code cause => driverMessage code cause.message

def label : Error → String
  | .invalidArgument _ => "invalid_argument"
  | .topicShutdown => "topic_shutdown"
  | .subscriptionShutdown => "subscription_shutdown"
  | .batcherShutdown => "batcher_shutdown"
  | .canceled => "canceled"
  | .driver .. => "driver_error"

/-- The classification of an error. Every shutdown is a failed precondition. -/
def code : Error → ErrorCode
  | .invalidArgument _ => .invalidArgument
  | .topicShutdown => .failedPrecondition
  | .subscriptionShutdown => .failedPrecondition
  | .batcherShutdown => .failedPrecondition
  | .canceled => .canceled
  | .driver code _ => code

/-- Whether the error is the end of a context and not a failure of the backend. -/
def isCanceled : Error → Bool
  | .canceled => true
  | _ => false

/-- The driver's native error inside an error. -/
def cause? : Error → Option Fault
  | .driver _ cause => some cause
  | _ => none

@[simp] theorem isCanceled_iff {error : Error} :
    error.isCanceled = true ↔ error = .canceled := by
  cases error <;> simp [isCanceled]

/-- A handler that ended abnormally. -/
def handlerPanicked : Error := .driver .internal (.text "batch handler panicked")

/-- A driver that delivers without acknowledgment ids where they are needed. -/
def missingAckId : Error := .driver .internal (.text "driver returned a message without an ack id")

/-- An item that no batch can hold. -/
def oversizedItem (size limit : Nat) : Error :=
  .invalidArgument
    ("item of " ++ Nat.repr size ++ " bytes exceeds the maximum batch size of "
      ++ Nat.repr limit ++ " bytes")

/-- One line for an error: its label, its classification and its wording. -/
def line (error : Error) : String :=
  "error " ++ error.label ++ " " ++ error.code.label ++ " " ++ error.message

end Error

/-- Either a value or an error of this library. -/
abbrev Outcome (α : Type) := Except Error α

/-- One line for the outcome of an operation without a value. -/
def Outcome.line : Outcome Unit → String
  | .ok _ => "ok"
  | .error error => error.line

end PubSub
