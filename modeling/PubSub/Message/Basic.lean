import PubSub.Error
import PubSub.Message.Envelope
import PubSub.Text.Bytes

/-!
# Messages

A message is what an application sends and receives: a body, attributes that are
byte strings, and what is left to do about its acknowledgment. A message that is
sent must have text attributes; `toEnvelope` checks that and `ofEnvelope` goes
back.

A received message is completed once, by an acknowledgment or a refusal.
Completing it again, or completing a message that was never received, is a
misuse of the library and not an error of the backend.
-/

namespace PubSub

/-- How a received message is completed. -/
inductive Completion
  /-- By a request to the driver, under this token. -/
  | request (id : AckId)
  /-- By a hook of the driver, which knows acknowledgments only. -/
  | hook
  deriving DecidableEq

/-- What is left to do about the acknowledgment of a message. -/
inductive AckState
  | unreceived
  | pending (completion : Completion)
  | done
  deriving DecidableEq

namespace AckState

def name : AckState → String
  | .unreceived => "unreceived"
  | .pending (.request _) => "pending"
  | .pending .hook => "pending (at-most-once)"
  | .done => "done"

end AckState

/-- A message of an application. -/
structure Message where
  body : Bytes
  metadata : List (Bytes × Bytes) := []
  native : Option Nat := none
  state : AckState := .unreceived
  deriving DecidableEq

/-- A wrong use of a message. -/
inductive Misuse
  | notReceived
  | alreadyCompleted
  | refusalUnsupported
  deriving DecidableEq

namespace Misuse

def message : Misuse → String
  | .notReceived => "pubport: ack/nack called on a message that was not received"
  | .alreadyCompleted => "pubport: message was already acked or nacked"
  | .refusalUnsupported => "pubport: nack is not supported by at-most-once subscriptions"

end Misuse

/-- What completing a message asks for. -/
inductive CompletionStep
  /-- Hand a request to the driver. -/
  | send (request : AckRequest)
  | runHook
  deriving DecidableEq

namespace Message

/-- Set an attribute; the last value of a key counts. -/
def withMetadata (message : Message) (key value : Bytes) : Message :=
  { message with metadata := setEntry key value message.metadata }

/-- The value of an attribute, if it is there and is text. -/
def metadataText? (message : Message) (key : String) : Option String :=
  (message.metadata.lookup (Text.encode key)).bind Text.decode?

/-- The attributes in the order of their keys. -/
def sortedMetadata (message : Message) : List (Bytes × Bytes) :=
  message.metadata.mergeSort fun left right => Text.bytesBefore left.1 right.1

/-- An attribute key that is no text. -/
def invalidKey (key : Bytes) : Error :=
  .invalidArgument
    ("message metadata key " ++ Text.quoted (Text.lossy key) ++ " is not valid UTF-8")

/-- An attribute value that is no text. -/
def invalidValue (key : String) : Error :=
  .invalidArgument
    ("message metadata value for key " ++ Text.quoted key ++ " is not valid UTF-8")

/-- An attribute as text; the key is checked before the value. -/
def textEntry (entry : Bytes × Bytes) : Outcome (String × String) :=
  match Text.decode? entry.1 with
  | none => .error (invalidKey entry.1)
  | some key =>
      match Text.decode? entry.2 with
      | none => .error (invalidValue key)
      | some value => .ok (key, value)

/-- An attribute that is text is encoded as it was. -/
theorem encode_textEntry
    {entry : Bytes × Bytes}
    {text : String × String}
    (decoded : textEntry entry = .ok text) :
    (Text.encode text.1, Text.encode text.2) = entry := by
  unfold textEntry at decoded
  split at decoded
  next => contradiction
  next key isKey =>
    split at decoded
    next => contradiction
    next value isValue =>
      cases decoded
      rw [Text.decode?_eq_some_iff] at isKey isValue
      rw [← isKey, ← isValue]

/-- All attributes as text, or the first error. -/
def textEntries : List (Bytes × Bytes) → Outcome (List (String × String))
  | [] => .ok []
  | entry :: rest =>
      match textEntry entry with
      | .error error => .error error
      | .ok checked =>
          match textEntries rest with
          | .error error => .error error
          | .ok others => .ok (checked :: others)

/-- The message on the driver's side, if all attributes are text. -/
def toEnvelope (message : Message) : Outcome Envelope :=
  match textEntries message.metadata with
  | .error error => .error error
  | .ok metadata => .ok { body := message.body, metadata, native := message.native }

/-- Attributes that are text are encoded as they were. -/
theorem textEntries_eq_ok
    {entries : List (Bytes × Bytes)}
    {texts : List (String × String)}
    (decoded : textEntries entries = .ok texts) :
    texts.map (fun entry => (Text.encode entry.1, Text.encode entry.2)) = entries := by
  induction entries generalizing texts with
  | nil =>
      cases decoded
      rfl
  | cons entry rest hypothesis =>
      unfold textEntries at decoded
      split at decoded
      next => contradiction
      next checked first =>
        split at decoded
        next => contradiction
        next others remaining =>
          cases decoded
          rw [List.map_cons, hypothesis remaining, encode_textEntry first]

/-- The driver is given the body and the attributes as they are. -/
theorem toEnvelope_eq_ok
    {message : Message}
    {envelope : Envelope}
    (checked : message.toEnvelope = .ok envelope) :
    envelope.body = message.body ∧
      envelope.metadata.map (fun entry => (Text.encode entry.1, Text.encode entry.2)) =
        message.metadata := by
  unfold toEnvelope at checked
  split at checked
  next => contradiction
  next metadata decoded =>
    cases checked
    exact ⟨rfl, textEntries_eq_ok decoded⟩

/-- A message that a driver delivered. -/
def ofEnvelope (envelope : Envelope) (completion : Completion) : Message :=
  { body := envelope.body
    metadata := envelope.metadata.map fun entry => (Text.encode entry.1, Text.encode entry.2)
    native := envelope.native
    state := .pending completion }

/-- Complete a message. Whatever comes of it, the message is done afterwards. -/
def complete
    (message : Message)
    (isAck : Bool) : Except Misuse CompletionStep × Message :=
  let step : Except Misuse CompletionStep :=
    match message.state with
    | .unreceived => .error .notReceived
    | .done => .error .alreadyCompleted
    | .pending .hook => if isAck then .ok .runHook else .error .refusalUnsupported
    | .pending (.request id) => .ok (.send { id, isAck })
  (step, { message with state := .done })

/-- Whether the driver would have been told about the message and was not. -/
def isNeglected (message : Message) : Bool :=
  match message.state with
  | .pending (.request _) => true
  | _ => false

/-- A message as it is shown to someone who looks for a mistake. -/
def shown (message : Message) : String :=
  "Message \x7b body_len: " ++ Nat.repr message.body.length
    ++ ", metadata_len: " ++ Nat.repr message.metadata.length
    ++ ", state: " ++ Text.quoted message.state.name ++ " \x7d"

end Message
end PubSub
