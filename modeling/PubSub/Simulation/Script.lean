import PubSub.Error
import PubSub.Event.Fanout

/-!
# Scripts

A simulated driver or handler follows a script: a sequence of cues, one for each of
its calls. A cue may wait, hang until the context of the call is cancelled, cancel a
context, end abnormally or fail; a call without a cue succeeds at once.
-/

namespace PubSub
namespace Simulation

/-- What one scripted call does, in the order of the fields. -/
structure Cue where
  /-- How long it waits, in milliseconds. -/
  waitMillis : Nat := 0
  /-- Whether it then waits for the end of its context and fails. -/
  hangs : Bool := false
  cancels : Option String := none
  /-- How it ends abnormally. -/
  panics : Option String := none
  fails : Option String := none
  /-- The classification of its failure. -/
  code : Option ErrorCode := none
  /-- Whether its failure is transient. -/
  isRetryable : Bool := false
  deriving DecidableEq, Inhabited

namespace Cue

/-- The failure of a call whose context ended. -/
def hungUp : Fault := .text "cancelled"

/-- The result of a call that neither hangs nor ends abnormally. -/
def result (cue : Cue) : Except Fault Unit :=
  match cue.fails with
  | none => .ok ()
  | some message => .error (.scripted message (cue.code.getD .unknown) cue.isRetryable)

end Cue

/-- The cues of the calls of one operation. -/
inductive Script (Item : Type)
  | sequence (items : List Item)
  /-- A sequence for each subject of a call. -/
  | bySubject (parts : List (String × List Item))
  deriving Inhabited

namespace Script

variable {Item : Type}

/-- The subject whose sequence serves all subjects without their own. -/
def anySubject : String := "*"

/-- Take the first item of the sequence of a key. -/
def takeFrom (key : String) :
    List (String × List Item) → Option (Option Item × List (String × List Item))
  | [] => none
  | part :: rest =>
      if part.1 = key then
        match part.2 with
        | [] => some (none, part :: rest)
        | item :: items => some (some item, (key, items) :: rest)
      else
        (takeFrom key rest).map fun taken => (taken.1, part :: taken.2)

/-- The cue of the next call on a subject, and the script without it. -/
def take (script : Script Item) (subject : String) : Option Item × Script Item :=
  match script with
  | .sequence [] => (none, .sequence [])
  | .sequence (item :: items) => (some item, .sequence items)
  | .bySubject parts =>
      match takeFrom subject parts with
      | some taken => (taken.1, .bySubject taken.2)
      | none =>
          match takeFrom anySubject parts with
          | some taken => (taken.1, .bySubject taken.2)
          | none => (none, .bySubject parts)

end Script

/-- A simulated subscriber. -/
structure SubscriberPlan where
  name : String
  /-- Capacity of its queue; none for the usual one. -/
  capacity : Option Nat := none
  /-- How long it takes to handle an event, in milliseconds. -/
  workMillis : Nat := 0
  panicsOn : Option EventKind := none
  deriving DecidableEq

namespace SubscriberPlan

def queue (plan : SubscriberPlan) : SubscriberQueue :=
  SubscriberQueue.create plan.name (plan.capacity.getD SubscriberQueue.standardCapacity)

/-- What is reported when a simulated subscriber ends abnormally. The capacity selects among
a value that is no text, a fixed text and a text with the name. -/
def panicInfo (plan : SubscriberPlan) : String :=
  match plan.capacity.getD 1 % 3 with
  | 0 => "unknown panic"
  | 1 => "static boom"
  | _ => "boom " ++ plan.name

end SubscriberPlan
end Simulation
end PubSub
