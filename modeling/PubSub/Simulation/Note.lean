import PubSub.Error
import PubSub.Event.Basic
import PubSub.Message.Envelope
import PubSub.Text.Bytes

/-!
# Notes of a simulation

A simulation keeps notes of what happens. A note has the time in milliseconds at
which it was taken. The notes of a step are shown in the order of time and then of
their texts, so the order within a millisecond does not show.
-/

namespace PubSub
namespace Simulation

/-- Something that happened. -/
inductive Note
  /-- A call of the scenario ended. -/
  | finished (label result : String)
  | observed (bus : String) (event : Event)
  | handled (subscriber : String) (event : Event)
  | batch (items : List String)
  /-- The handler of the batcher is done with a batch, named by its first item. -/
  | batchDone (first : String) (result : Outcome Unit)
  | counters (text : String)
  /-- An attempt of the retried operation began. -/
  | attempt
  /-- A driver was asked to do something. -/
  | asked (owner operation subject : String)
  /-- A driver did something. -/
  | replied
      (owner operation : String)
      (subject : Option String)
      (result : Except Fault String)
  | closed (owner : String) (result : Except Fault Unit)
  | hookRan (owner : String)

/-- Attributes between braces, in the order of their keys. -/
def attributesText (metadata : List (String × String)) : String :=
  let sorted := metadata.mergeSort fun left right => decide (left.1 ≤ right.1)
  "\x7b" ++ ",".intercalate (sorted.map fun entry => entry.1 ++ "=" ++ entry.2) ++ "\x7d"

/-- The body of a message followed by its attributes. Messages that carry a token are
marked. -/
def envelopeText (envelope : Envelope) : String :=
  (if envelope.ackId.isSome then "!" else "")
    ++ Text.ofBytes envelope.body ++ attributesText envelope.metadata

def ackIdText : AckId → String
  | .text value => value
  | .number value => Nat.repr value
  | .broker value => Nat.repr value
  | .placeholder => ""

/-- Several names in one word. -/
def joined (names : List String) : String := "|".intercalate names

/-- Success, with what there is to say, or the wording of an error. -/
def resultText : Except Fault String → String
  | .ok detail => "ok" ++ detail
  | .error fault => "err " ++ fault.message

def Note.line : Note → String
  | .finished label result => "done " ++ label ++ " " ++ result
  | .observed bus event => "event " ++ bus ++ " " ++ event.line
  | .handled subscriber event => "sub " ++ subscriber ++ " " ++ event.line
  | .batch items => "batch " ++ joined items
  | .batchDone first result => "handled " ++ first ++ " " ++ result.line
  | .counters text => "state " ++ text
  | .attempt => "call"
  | .asked owner operation subject => "call " ++ owner ++ " " ++ operation ++ " " ++ subject
  | .replied owner operation subject result =>
      "ret " ++ owner ++ " " ++ operation ++ " "
        ++ (match subject with
          | none => ""
          | some name => name ++ " ")
        ++ resultText result
  | .closed owner result => "close " ++ owner ++ " " ++ resultText (result.map fun _ => "")
  | .hookRan owner => "ack_fn " ++ owner

/-- A note with its time in milliseconds. -/
structure TimedNote where
  time : Nat
  note : Note

namespace TimedNote

def entry (timed : TimedNote) : Nat × String := (timed.time, timed.note.line)

/-- Whether an entry may be shown before another: by time, then by text. -/
def entryBefore (left right : Nat × String) : Bool :=
  if left.1 = right.1 then left.2 ≤ right.2 else left.1 < right.1

def shown (notes : List TimedNote) : List (Nat × String) :=
  (notes.map entry).mergeSort entryBefore

end TimedNote
end Simulation
end PubSub
