import PubSub.Duration
import PubSub.Error
import PubSub.Message.Envelope

/-!
# Feeds of the in-memory broker

A feed holds the messages of one subscription of the broker until they are
acknowledged. Messages are kept in the order of their numbers, which is the order
in which they were sent. A message is due when it was never handed out, was
refused, or was handed out so long ago that its deadline has passed.

A feed without an acknowledgment deadline forgets a message when it hands it out.

A receiver that finds nothing due waits for the next arrival or for the earliest
deadline. Arrivals are counted, so a receiver that remembers the count it has seen
cannot miss one.
-/

namespace PubSub

/-- A message that a feed holds. -/
structure HeldMessage where
  envelope : Envelope
  /-- Time at which the message is due again; none if it is due now. -/
  deadline : Option Nat := none
  deriving DecidableEq

namespace HeldMessage

/-- Whether a message may be handed out. -/
def isDue (held : HeldMessage) (now : Nat) : Bool :=
  match held.deadline with
  | none => true
  | some deadline => deadline ≤ now

end HeldMessage

/-- The messages of one subscription of the broker. -/
structure Feed where
  /-- Time after which an unacknowledged message is due again; none if messages are handed
  out at most once. -/
  ackDeadline : Option Duration
  /-- Numbers and messages, in increasing order of the numbers. -/
  messages : List (Nat × HeldMessage) := []
  /-- How often messages arrived or were refused. -/
  arrivals : Nat := 0
  isClosed : Bool := false
  deriving DecidableEq

/-- What a walk over the messages of a feed leads to. -/
structure Scan where
  /-- Messages that are handed out. -/
  taken : List Envelope
  left : List (Nat × HeldMessage)
  /-- The earliest deadline among the messages that were passed over. -/
  nextDeadline : Option Nat

/-- The largest number of messages handed out at once. -/
def Feed.largestBatch : Nat := 100

def earlier : Option Nat → Option Nat → Option Nat
  | none, right => right
  | some left, none => some left
  | some left, some right => some (min left right)

namespace Feed

/-- Walk over messages and hand out those that are due, while there is room. -/
def scan (ackDeadline : Option Duration) (now : Nat) :
    (room : Nat) → List (Nat × HeldMessage) → Scan
  | _, [] => ⟨[], [], none⟩
  | 0, messages => ⟨[], messages, none⟩
  | room + 1, (id, held) :: rest =>
      if held.isDue now then
        let later := scan ackDeadline now room rest
        match ackDeadline with
        | some span =>
            { taken := { held.envelope with ackId := some (.broker id) } :: later.taken
              left := (id, { held with deadline := some (now + span.nanos) }) :: later.left
              nextDeadline := later.nextDeadline }
        | none =>
            { taken := held.envelope :: later.taken
              left := later.left
              nextDeadline := later.nextDeadline }
      else
        let later := scan ackDeadline now (room + 1) rest
        { taken := later.taken
          left := (id, held) :: later.left
          nextDeadline := earlier held.deadline later.nextDeadline }

/-- The number of messages handed out for a request. -/
def batchLimit (requested : Nat) : Nat := min (max requested 1) largestBatch

/-- Add messages under consecutive numbers. Tokens the sender put on them are removed. -/
def add (feed : Feed) (first : Nat) (envelopes : List Envelope) : Feed :=
  { feed with
    messages := feed.messages ++
      (envelopes.zipIdx first).map fun (envelope, id) =>
        (id, { envelope := { envelope with ackId := none } })
    arrivals := feed.arrivals + 1 }

/-- Whether a call on the feed may proceed. -/
def checkOpen (feed : Feed) (cancelled : Bool) : Except BrokerError Unit :=
  if feed.isClosed then .error .subscriptionClosed
  else if cancelled then .error .canceled
  else .ok ()

/-- What a receiver that found nothing waits for. -/
structure Watch where
  /-- How many arrivals it has seen. -/
  seen : Nat
  /-- The earliest time at which a message becomes due; none if no message is held. -/
  alarm : Option Nat
  deriving DecidableEq

/-- A walk over the messages of a feed for a request: what is handed out, what is left, and
when the next of the messages that were passed over is due. -/
def look (feed : Feed) (now requested : Nat) : Scan :=
  scan feed.ackDeadline now (batchLimit requested) feed.messages

/-- Whether a receiver that found nothing has a reason to look again. -/
def hasNews (feed : Feed) (now : Nat) (watch : Watch) : Bool :=
  feed.arrivals != watch.seen || watch.alarm.any (· ≤ now)

/-- The numbers of tokens, if the broker issued all of them. -/
def numbersOf : List AckId → Except BrokerError (List Nat)
  | [] => .ok []
  | .broker number :: rest =>
      match numbersOf rest with
      | .ok others => .ok (number :: others)
      | .error error => .error error
  | .text _ :: _ => .error .foreignAckId
  | .number _ :: _ => .error .foreignAckId
  | .placeholder :: _ => .error .foreignAckId

/-- The numbers named by a call that is allowed to proceed. -/
def permitted (feed : Feed) (cancelled : Bool) (ids : List AckId) : Except BrokerError (List Nat) :=
  match feed.checkOpen cancelled with
  | .error error => .error error
  | .ok _ => numbersOf ids

/-- Forget messages; a number that is not held is ignored. -/
def forget (feed : Feed) (numbers : List Nat) : Feed :=
  { feed with messages := feed.messages.filter fun held => held.1 ∉ numbers }

/-- Make messages due now; a number that is not held is ignored. -/
def release (feed : Feed) (numbers : List Nat) : Feed :=
  { feed with
    messages := feed.messages.map fun held =>
      if held.1 ∈ numbers then (held.1, { held.2 with deadline := none }) else held
    arrivals := feed.arrivals + 1 }

/-- Forget the messages of tokens. -/
def acknowledge (feed : Feed) (cancelled : Bool) (ids : List AckId) :
    Except BrokerError Unit × Feed :=
  match feed.permitted cancelled ids with
  | .error error => (.error error, feed)
  | .ok numbers => (.ok (), feed.forget numbers)

/-- Make the messages of tokens due now. -/
def refuse (feed : Feed) (cancelled : Bool) (ids : List AckId) :
    Except BrokerError Unit × Feed :=
  match feed.permitted cancelled ids with
  | .error error => (.error error, feed)
  | .ok numbers => (.ok (), feed.release numbers)

end Feed
end PubSub
