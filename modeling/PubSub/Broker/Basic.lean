import PubSub.Broker.Feed
import PubSub.Retry.Call

/-!
# In-memory broker

The broker numbers the messages of a topic and copies each of them to every feed
that is open when the message is sent. Feeds are named by their place in the order
in which they were attached.
-/

namespace PubSub

/-- A topic of the in-memory broker, with its feeds. -/
structure Broker where
  /-- Number of the next message. -/
  nextId : Nat := 0
  isClosed : Bool := false
  feeds : List Feed := []
  deriving DecidableEq, Inhabited

namespace Broker

def codeOf : Fault → ErrorCode
  | .broker cause => cause.code
  | _ => .unknown

/-- How the broker judges its errors; none of them is transient. -/
def classification : Classification := { isRetryable := fun _ => false, codeOf }

/-- Attach a feed; it is named by the number of feeds attached before. -/
def attach (broker : Broker) (ackDeadline : Option Duration) : Broker :=
  { broker with feeds := broker.feeds ++ [{ ackDeadline }] }

def feed? (broker : Broker) (index : Nat) : Option Feed := broker.feeds[index]?

def setFeed (broker : Broker) (index : Nat) (feed : Feed) : Broker :=
  { broker with feeds := broker.feeds.set index feed }

/-- Copy messages to every open feed under fresh consecutive numbers. -/
def send (broker : Broker) (cancelled : Bool) (envelopes : List Envelope) :
    Except BrokerError Unit × Broker :=
  if broker.isClosed then (.error .topicClosed, broker)
  else if cancelled then (.error .canceled, broker)
  else
    (.ok (),
      { broker with
        nextId := broker.nextId + envelopes.length
        feeds := broker.feeds.map fun feed =>
          if feed.isClosed then feed else feed.add broker.nextId envelopes })

/-- Accept no more messages. -/
def close (broker : Broker) : Broker := { broker with isClosed := true }

def closeFeed (broker : Broker) (index : Nat) : Broker :=
  { broker with feeds := broker.feeds.modify index fun feed => { feed with isClosed := true } }

end Broker
end PubSub
