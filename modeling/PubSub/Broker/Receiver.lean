import PubSub.Broker.Feed
import PubSub.Task

/-!
# Receivers of a feed

A receiver asks a feed for messages and waits while none is due. It begins to listen for
arrivals before it looks for messages, so that nothing that arrives in between is missed.
It is woken by arrivals and refusals, and at the earliest time at which a message that it
passed over is due; then it begins again. The closing of the feed and the end of its
context end its wait.
-/

namespace PubSub
namespace FeedReceiver

/-- Where a receiver of a feed stands. -/
inductive Stage
  | opening
  /-- Listens for other arrivals than those it has seen, and is about to look. -/
  | looking (seen : Nat)
  /-- Found nothing. -/
  | waiting (watch : Feed.Watch)
  deriving DecidableEq

end FeedReceiver

/-- A receiver of a feed. -/
structure FeedReceiver where
  /-- The largest number of messages it asks for. -/
  requested : Nat
  stage : FeedReceiver.Stage := .opening
  deriving DecidableEq

namespace FeedReceiver

/-- The time at which a receiver looks again at the latest. -/
def alarm? (receiver : FeedReceiver) : Option Nat :=
  match receiver.stage with
  | .waiting watch => watch.alarm
  | _ => none

/-- How a receiver goes on that waits. -/
def onWatch
    (moment : Moment)
    (cancelled : Bool)
    (feed : Feed)
    (receiver : FeedReceiver)
    (watch : Feed.Watch) : Next FeedReceiver (Except BrokerError (List Envelope)) :=
  if cancelled && moment.contextFirst then .done (.error .canceled)
  else if feed.hasNews moment.now watch then .continue { receiver with stage := .opening }
  else if feed.isClosed then .done (.error .subscriptionClosed)
  else if cancelled then .done (.error .canceled)
  else .wait receiver

def step (moment : Moment) (cancelled : Bool) (feed : Feed) (receiver : FeedReceiver) :
    Turn Feed FeedReceiver (Except BrokerError (List Envelope)) Empty :=
  match receiver.stage with
  | .opening =>
      match feed.checkOpen cancelled with
      | .error error => { state := feed, next := .done (.error error) }
      | .ok _ =>
          { state := feed
            next := .continue { receiver with stage := .looking feed.arrivals } }
  | .looking seen =>
      let walk := feed.look moment.now receiver.requested
      { state := { feed with messages := walk.left }
        next :=
          if walk.taken.isEmpty then
            .wait { receiver with stage := .waiting ⟨seen, walk.nextDeadline⟩ }
          else .done (.ok walk.taken) }
  | .waiting watch => { state := feed, next := receiver.onWatch moment cancelled feed watch }

end FeedReceiver
end PubSub
