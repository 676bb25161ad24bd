import PubSub.Error
import PubSub.Event.Basic
import PubSub.Retry.Backoff
import PubSub.Task

/-!
# Retried calls

A retried call repeats an operation of a driver while it fails with errors that
the driver calls transient. It ends with the value of the first success, with the
first permanent error, or with cancellation of its context. There is no limit on
the number of attempts.

A call is always in one `Phase`. `Phase.step` says what it does when someone looks
at it, given whether its context is cancelled, the time, and what the running
operation has come to. A result of the operation counts before a cancellation seen
at the same time; an error does not.
-/

namespace PubSub

/-- How a driver judges its own errors. -/
structure Classification where
  /-- Whether an error is transient. -/
  isRetryable : Fault → Bool
  codeOf : Fault → ErrorCode
  deriving Inhabited

/-- What is fixed for all attempts of a retried call. -/
structure RetryPlan where
  component : String
  operation : String
  policy : Backoff
  classification : Classification

namespace Retry

/-- Where a retried call stands. -/
inductive Phase
  /-- About to start the operation after this many failures. -/
  | starting (failures : Nat)
  /-- The operation is running. -/
  | calling (failures : Nat)
  /-- Waiting for the time of the next attempt. -/
  | pausing (failures : Nat) (wakeAt : Nat)
  deriving DecidableEq

/-- What a retried call does next. -/
inductive Step (Value : Type)
  /-- Stay in the same phase. -/
  | wait
  /-- Start the operation. -/
  | call (failures : Nat)
  /-- Announce another attempt and go on in a phase. -/
  | announce (event : Event) (phase : Phase)
  | continue (phase : Phase)
  | finish (result : Outcome Value)
  /-- End abnormally. -/
  | crash (info : String)

/-- The number of failures after another one, stopping at the largest 32-bit word. -/
def oneMore (failures : Nat) : Nat := min (failures + 1) maxHalfWord

/-- The announcement of another attempt. -/
def announcement (plan : RetryPlan) (failures : Nat) (fault : Fault) (delay : Duration) : Event :=
  Event.retryScheduled plan.component plan.operation failures delay fault.message

/-- Announce another attempt after a delay and pause. -/
def pause
    {Value : Type}
    (plan : RetryPlan)
    (now failures : Nat)
    (fault : Fault)
    (delay : Duration) : Step Value :=
  .announce (announcement plan failures fault delay) (.pausing failures (now + delay.nanos))

/-- What follows an error of the operation. -/
def afterFault
    {Value : Type}
    (plan : RetryPlan)
    (failures : Nat)
    (cancelled : Bool)
    (moment : Moment)
    (fault : Fault) : Step Value :=
  if cancelled then .finish (.error .canceled)
  else if plan.classification.isRetryable fault then
    match plan.policy.next? failures with
    | none => .crash Backoff.conversionFailure
    | some delays => pause plan moment.now (oneMore failures) fault (moment.pick delays)
  else .finish (.error (.driver (plan.classification.codeOf fault) fault))

/-- What a retried call does when someone looks at it. -/
def Phase.step
    {Value : Type}
    (plan : RetryPlan)
    (cancelled : Bool)
    (moment : Moment)
    (answer : Answer (Except Fault Value)) : Phase → Step Value
  | .starting failures =>
      if cancelled then .finish (.error .canceled) else .call failures
  | .calling failures =>
      match answer with
      | .returned (.ok value) => .finish (.ok value)
      | .returned (.error fault) => afterFault plan failures cancelled moment fault
      | .panicked info => .crash info
      | .running => if cancelled then .finish (.error .canceled) else .wait
  | .pausing failures wakeAt =>
      if cancelled then .finish (.error .canceled)
      else if wakeAt ≤ moment.now then .continue (.starting failures)
      else .wait

/-- Whether the operation is running. -/
def Phase.isCalling : Phase → Bool
  | .calling _ => true
  | _ => false

/-- A value of the operation ends the call, whether its context is cancelled or not. -/
@[simp] theorem step_calling_of_value
    {Value : Type}
    (plan : RetryPlan)
    (cancelled : Bool)
    (moment : Moment)
    (value : Value)
    (failures : Nat) :
    (Phase.calling failures).step plan cancelled moment (.returned (.ok value))
      = .finish (.ok value) := rfl

end Retry
end PubSub
