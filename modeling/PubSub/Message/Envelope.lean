import PubSub.Text.Bytes
import PubSub.Text.Quoted

/-!
# Envelopes

An envelope is a message as a driver sees it: a body, attributes that are text,
and, on received messages, the token under which the message is acknowledged.
Attribute keys are unique; setting a key again replaces its value.
-/

namespace PubSub

/-- The token under which a driver wants a message acknowledged. -/
inductive AckId
  | text (value : String)
  | number (value : Nat)
  /-- A token of the in-memory broker. -/
  | broker (value : Nat)
  /-- No token of any driver. -/
  | placeholder
  deriving DecidableEq

namespace AckId

/-- The number of a numeric token. -/
def asNumber? : AckId → Option Nat
  | .number value => some value
  | _ => none

def asText? : AckId → Option String
  | .text value => some value
  | _ => none

/-- A token as it is shown: its content is the driver's own. -/
def shown : String := "AckId(..)"

end AckId

/-- Set a key of an association list, keeping its place if it is there. -/
def setEntry {Key Value : Type} [DecidableEq Key] (key : Key) (value : Value) :
    List (Key × Value) → List (Key × Value)
  | [] => [(key, value)]
  | entry :: rest =>
      if entry.1 = key then (key, value) :: rest else entry :: setEntry key value rest

@[simp] theorem lookup_setEntry_self
    {Key Value : Type}
    [DecidableEq Key]
    [BEq Key]
    [LawfulBEq Key]
    (key : Key)
    (value : Value)
    (entries : List (Key × Value)) :
    (setEntry key value entries).lookup key = some value := by
  induction entries with
  | nil => simp [setEntry]
  | cons entry rest hypothesis =>
      obtain ⟨present, stored⟩ := entry
      by_cases same : present = key
      · simp [setEntry, same]
      · have differ : (key == present) = false := by simpa using Ne.symm same
        simp [setEntry, same, List.lookup_cons, differ, hypothesis]

/-- A message on the driver's side. -/
structure Envelope where
  body : Bytes
  metadata : List (String × String) := []
  ackId : Option AckId := none
  /-- A message of the provider's own kind. -/
  native : Option Nat := none
  deriving DecidableEq

namespace Envelope

/-- Bytes of keys and values. -/
def metadataSize : List (String × String) → Nat
  | [] => 0
  | entry :: rest => entry.1.utf8ByteSize + entry.2.utf8ByteSize + metadataSize rest

/-- Bytes a message counts for: its body and all keys and values. -/
def byteSize (envelope : Envelope) : Nat :=
  envelope.body.length + metadataSize envelope.metadata

/-- The attributes, each key and value quoted. -/
def metadataText (metadata : List (String × String)) : String :=
  "\x7b"
    ++ ", ".intercalate (metadata.map fun entry =>
      Text.quoted entry.1 ++ ": " ++ Text.quoted entry.2)
    ++ "\x7d"

/-- A message as it is shown to someone who looks for a mistake. -/
def shown (envelope : Envelope) : String :=
  "Message \x7b body_len: " ++ Nat.repr envelope.body.length
    ++ ", metadata: " ++ metadataText envelope.metadata
    ++ ", ack_id: " ++ (if envelope.ackId.isSome then "Some(" ++ AckId.shown ++ ")" else "None")
    ++ ", native: " ++ toString envelope.native.isSome ++ " \x7d"

end Envelope

/-- One acknowledgment or refusal on its way to the driver. -/
structure AckRequest where
  id : AckId
  /-- Whether the message is acknowledged; otherwise it is to be delivered again. -/
  isAck : Bool
  deriving DecidableEq

namespace AckRequest

/-- Acknowledgments count no bytes. -/
def byteSize (_ : AckRequest) : Nat := 0

/-- A request as it is shown to someone who looks for a mistake. -/
def shown (request : AckRequest) : String :=
  "AckInfo \x7b id: " ++ AckId.shown ++ ", is_ack: " ++ toString request.isAck ++ " \x7d"

end AckRequest
end PubSub
