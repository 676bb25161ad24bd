import PubSub.Broker.Basic
import PubSub.Broker.Receiver
import PubSub.Event.Delivery
import PubSub.Simulation.Note
import PubSub.Simulation.Script
import PubSub.Subscription.Tasks
import PubSub.Topic.Tasks

/-!
# The world of a simulation

A simulated world has a clock, named contexts, topics and subscriptions with their
drivers, brokers, and activities. An `Activity` is a task of the library together
with what a simulation knows about it: the label of its call, the name of its
context, and the driver calls that it has begun.

A waiting activity names the signals that make it run again and the times at which it
runs again. Raising a signal moves the activities that wait for it to the end of the
queue of ready ones, in the order in which they began to wait.
-/

namespace PubSub
namespace Simulation

/-- A topic or a subscription, by its place in the world. -/
inductive Endpoint
  | topic (index : Nat)
  | subscription (index : Nat)
  deriving DecidableEq

/-- Who owns a batcher. -/
inductive Owner
  | scenario
  | endpoint (endpoint : Endpoint)
  deriving DecidableEq

/-- Something that can be cancelled. -/
inductive Token
  | never
  | context (name : String)
  /-- The context of the driver calls of an endpoint. -/
  | background (endpoint : Endpoint)
  deriving DecidableEq

/-- What a waiting activity can be told. -/
inductive Signal
  | cancelled (token : Token)
  /-- The batch of an accepted item has its result. -/
  | answered (owner : Owner) (id : Nat)
  /-- A batcher became idle. -/
  | idle (owner : Owner)
  /-- The background receive of a subscription ended. -/
  | fetched (subscription : Nat)
  /-- Something happened in a hub. -/
  | hub (hub : Nat) (signal : HubSignal)
  /-- Messages arrived at a feed, or the feed was closed. -/
  | feedChanged (broker feed : Nat)
  deriving DecidableEq

/-- What a waiting activity waits for. -/
inductive Wait
  | signal (signal : Signal)
  | alarm (time : Nat)

/-- An item of the batcher of a scenario. -/
structure PlannedItem where
  id : String
  size : Nat
  /-- What the handler does if the item is the first of its batch. -/
  plan : Cue
  deriving DecidableEq, Inhabited

/-- A scripted call in progress. -/
structure Play where
  cue : Cue
  /-- The context of the call. -/
  token : Token
  /-- End of its waiting time. -/
  wakeAt : Nat

/-- A driver call without a value in progress. -/
inductive UnitCall
  /-- A scripted call that reports its end under a subject. -/
  | scripted (play : Play) (owner operation subject : String)
  /-- The closing of a scripted driver. -/
  | closing (play : Play) (owner : String)
  /-- A call that ended as it began. -/
  | ended (result : Except Fault Unit)

/-- A receive of a driver in progress. -/
inductive ReceiveCall
  | scripted (play : Play) (owner : String) (envelopes : List Envelope)
  | feed (broker feed : Nat) (receiver : FeedReceiver)

/-- An attempt of the retried operation of a scenario, with the value of a success. -/
structure Attempt where
  play : Play
  value : String

/-- A task with what a simulation knows about it. -/
inductive Activity
  /-- A caller of the scenario's batcher. -/
  | addItem (label context : String) (task : Batcher.Adding PlannedItem)
  | flush (label : String) (task : Batcher.Flush)
  | handleItems (task : Batcher.Handling PlannedItem) (play : Option Play)
  /-- A linger timer of a batcher. -/
  | linger (owner : Owner) (wakeAt : Nat)
  | send (label context : String) (topic : Nat) (task : Topic.Sender)
  /-- A batch handler of a topic, with its driver call. -/
  | sendBatch (topic : Nat) (task : Topic.Handler) (call : Option UnitCall)
  | receive (label context : String) (subscription : Nat) (task : Subscription.Receiver)
  /-- A background receive, with its driver calls by their places. -/
  | fetch (subscription : Nat) (task : Subscription.Fetch) (calls : List (Nat × ReceiveCall))
  /-- A batch handler of a subscription, with its driver calls by their places. -/
  | sendAcks (subscription : Nat) (task : Subscription.Handler) (calls : List (Nat × UnitCall))
  /-- A shutdown of a topic or a subscription, with the closing of its driver. -/
  | close
      (label context : String)
      (endpoint : Endpoint)
      (task : Closing)
      (call : Option UnitCall)
  /-- The end of a shutdown, which waits for the hub. -/
  | closeHub (label : String) (endpoint : Endpoint) (result : Outcome Unit) (task : Hub.Ending)
  /-- The worker of a simulated subscriber, with the time at which it is done with its
  event. -/
  | subscriber
      (hub place : Nat)
      (plan : SubscriberPlan)
      (task : Hub.Worker)
      (wakeAt : Nat)
  | listener (hub : Nat)
  | observer (hub : Nat)
  /-- A shutdown of a set of subscribers. -/
  | drain (label : String) (hub : Nat) (task : Hub.Ending)
  | brokerSend (label context : String) (broker : Nat) (envelopes : List Envelope)
  | brokerReceive (label context : String) (broker feed : Nat) (receiver : FeedReceiver)
  /-- An acknowledgment or a refusal at a feed. -/
  | brokerSettle (label context : String) (broker feed : Nat) (isAck : Bool) (ids : List AckId)
  | brokerClose (label : String) (broker : Nat) (feed : Option Nat)
  /-- A retried operation of the scenario. -/
  | retried (phase : Retry.Phase) (attempt : Option Attempt)
  | cancelAt (context : String) (time : Nat)

/-- The driver of a topic. -/
inductive TopicDriver
  | scripted (isMinimal : Bool) (script : Script Cue) (closing : Cue)
  | broker (index : Nat)
  deriving Inhabited

/-- The driver of a subscription. -/
inductive SubscriptionDriver
  | scripted
      (isMinimal atMostOnce : Bool)
      (receives : List (Cue × List Envelope))
      (acks nacks : Script Cue)
      (closing : Cue)
  | broker (broker feed : Nat)
  deriving Inhabited

/-- A topic of a simulation. -/
structure TopicPart where
  name : String
  topic : Topic
  driver : TopicDriver
  hub : Nat
  /-- How many tasks and handles keep the topic. -/
  holders : Nat := 1
  deriving Inhabited

/-- A subscription of a simulation. -/
structure SubscriptionPart where
  name : String
  subscription : Subscription Float
  driver : SubscriptionDriver
  /-- Messages that the source has handed out. -/
  sourceTaken : Nat := 0
  sourceSize : Nat := 0
  /-- How long a receive from the source takes, in milliseconds. -/
  sourceMillis : Nat := 0
  hub : Nat
  holders : Nat := 1
  deriving Inhabited

/-- The bus of a simulation with its name in notes. -/
structure HubPart where
  name : String
  hub : Hub
  deriving Inhabited

/-- A retried operation of a scenario. -/
structure RetriedPart where
  plan : RetryPlan
  context : String
  /-- Cues of the attempts to come, with the value of a success. -/
  script : List (Cue × String)
  result : Option (Outcome String) := none
  /-- How the call ended abnormally. -/
  crash : Option String := none

/-- The state of a simulation. -/
structure World where
  /-- Time in nanoseconds. -/
  now : Nat := 0
  /-- Names of the contexts that are cancelled. -/
  cancelled : List String := []
  hubs : Array HubPart := #[]
  topics : Array TopicPart := #[]
  subscriptions : Array SubscriptionPart := #[]
  brokers : Array Broker := #[]
  batcher : Batcher PlannedItem := Batcher.create {}
  retried : Option RetriedPart := none
  /-- Names by which the scenario reaches its parts. -/
  topicNames : List (String × Nat) := []
  subscriptionNames : List (String × Nat) := []
  brokerNames : List (String × Nat) := []
  feedNames : List (String × Nat × Nat) := []
  /-- Received messages that the scenario keeps, with their subscription. -/
  messages : List (String × Nat × Message) := []
  /-- Tokens that the scenario keeps. -/
  ackIds : List (String × AckId) := []
  /-- Activities that can run, next first. -/
  ready : List Activity := []
  /-- Waiting activities, in the order in which they began to wait. -/
  waiting : List Activity := []
  running : Option Activity := none
  /-- Labels of the calls that have not ended. -/
  unfinished : List String := []
  /-- Notes of the current step, newest first. -/
  notes : List TimedNote := []

abbrev Sim := StateM World

/-! ## What activities wait for -/

/-- What a scripted call waits for. -/
def Play.waits (play : Play) : List Wait :=
  [.alarm play.wakeAt, .signal (.cancelled play.token)]

def UnitCall.waits : UnitCall → List Wait
  | .scripted play _ _ _ => play.waits
  | .closing play _ => play.waits
  | .ended _ => []

def feedWaits (broker feed : Nat) (receiver : FeedReceiver) : List Wait :=
  .signal (.feedChanged broker feed) :: (receiver.alarm?.map Wait.alarm).toList

def ReceiveCall.waits : ReceiveCall → List Wait
  | .scripted play _ _ => play.waits
  | .feed broker place receiver => feedWaits broker place receiver

/-- What a retried call waits for under a context, given what its operation waits for. -/
def phaseWaits (token : Token) (operation : List Wait) : Retry.Phase → List Wait
  | .starting _ => []
  | .calling _ => .signal (.cancelled token) :: operation
  | .pausing _ wakeAt => [.alarm wakeAt, .signal (.cancelled token)]

def groupWaits {Request Value Call : Type}
    (token : Token)
    (waits : Call → List Wait)
    (calls : List (Nat × Call))
    (group : Retry.Group Request Value) : List Wait :=
  group.members.zipIdx.flatMap fun (member, place) =>
    match member with
    | .succeeded _ => []
    | .running _ phase => phaseWaits token (((calls.lookup place).map waits).getD []) phase

def flushWaits (owner : Owner) : Batcher.Flush → List Wait
  | .starting => []
  | .listening => []
  | .looking _ => []
  | .waiting _ => [.signal (.idle owner)]

def endingWaits (hub : Nat) : Hub.Ending → List Wait
  | .begin => []
  | .stopping => [.signal (.hub hub .listenerEnded)]
  | .closingQueues => []
  | .draining subscriber => [.signal (.hub hub (.workerEnded subscriber))]

/-- The hub of a topic or a subscription. -/
def World.hubOf (world : World) : Endpoint → Nat
  | .topic index => (world.topics.getD index default).hub
  | .subscription index => (world.subscriptions.getD index default).hub

/-- The end of a context that a caller gives. -/
def contextWait (context : String) : Wait := .signal (.cancelled (.context context))

def Activity.waits (world : World) : Activity → List Wait
  | .addItem _ _ (.entering ..) => []
  | .addItem _ context (.awaiting id) =>
      [.signal (.answered .scenario id), contextWait context]
  | .flush _ task => flushWaits .scenario task
  | .handleItems _ play => (play.map Play.waits).getD []
  | .linger _ wakeAt => [.alarm wakeAt]
  | .send _ _ _ (.sending _) => []
  | .send _ _ _ (.checking _) => []
  | .send _ _ _ (.adding (.entering ..)) => []
  | .send _ context topic (.adding (.awaiting number)) =>
      [.signal (.answered (.endpoint (.topic topic)) number), contextWait context]
  | .sendBatch topic task call =>
      match task with
      | .calling _ phase =>
          phaseWaits (.background (.topic topic)) ((call.map UnitCall.waits).getD []) phase
      | .announcing _ => []
      | .answering .. => []
  | .receive _ _ _ .asking => []
  | .receive _ context subscription (.awaiting _) =>
      [.signal (.fetched subscription), contextWait context]
  | .fetch subscription task calls =>
      match task with
      | .calling _ group =>
          groupWaits (.background (.subscription subscription)) ReceiveCall.waits calls group
      | .storing .. => []
      | .waking _ => []
  | .sendAcks subscription task calls =>
      match task with
      | .calling _ group =>
          groupWaits (.background (.subscription subscription)) UnitCall.waits calls group
      | .announcing _ => []
      | .failing .. => []
      | .answering .. => []
  | .close _ context endpoint task call =>
      match task with
      | .begin => []
      | .flushing stage => flushWaits (.endpoint endpoint) stage ++ [contextWait context]
      | .calling => (call.map UnitCall.waits).getD []
  | .closeHub _ endpoint _ task => endingWaits (world.hubOf endpoint) task
  | .subscriber hub place _ task wakeAt =>
      match task with
      | .idle => [.signal (.hub hub (.queued place))]
      | .handling _ => [.alarm wakeAt]
  | .listener hub => [.signal (.hub hub .published), .signal (.hub hub .stopped)]
  | .observer hub => [.signal (.hub hub .published)]
  | .drain _ hub task => endingWaits hub task
  | .brokerSend .. => []
  | .brokerReceive _ context broker feed receiver =>
      contextWait context :: feedWaits broker feed receiver
  | .brokerSettle .. => []
  | .brokerClose .. => []
  | .retried phase attempt =>
      phaseWaits
        (world.retried.elim Token.never fun part => Token.context part.context)
        ((attempt.map fun attempt => attempt.play.waits).getD [])
        phase
  | .cancelAt _ time => [.alarm time]

def Activity.waitsFor (world : World) (raised : Signal) (activity : Activity) : Bool :=
  (activity.waits world).any fun
    | .signal expected => expected = raised
    | .alarm _ => false

/-- The earliest time later than now at which a waiting activity runs again. -/
def Activity.nextAlarm (world : World) (activity : Activity) : Option Nat :=
  (activity.waits world).foldl
    (fun found wait =>
      match wait with
      | .signal _ => found
      | .alarm time => if world.now < time then earlier found (some time) else found)
    none

/-! ## Elementary actions -/

namespace Sim

def raise (raised : Signal) : Sim Unit :=
  modify fun world =>
    let parts := world.waiting.partition (Activity.waitsFor world raised)
    { world with ready := world.ready ++ parts.1, waiting := parts.2 }

def spawn (activity : Activity) : Sim Unit :=
  modify fun world => { world with ready := world.ready ++ [activity] }

def note (entry : Note) : Sim Unit :=
  modify fun world =>
    { world with notes := ⟨world.now / 1000000, entry⟩ :: world.notes }

def isCancelled (token : Token) : Sim Bool := do
  let world ← get
  match token with
  | .never => return false
  | .context name => return world.cancelled.contains name
  | .background (.topic index) =>
      return (world.topics.getD index default).topic.backgroundEnded
  | .background (.subscription index) =>
      return (world.subscriptions.getD index default).subscription.backgroundEnded

/-- Cancel a context; a second time has no effect. -/
def cancelContext (name : String) : Sim Unit := do
  let world ← get
  if world.cancelled.contains name then return
  set { world with cancelled := name :: world.cancelled }
  raise (.cancelled (.context name))

def publish (hub : Nat) (event : Event) : Sim Unit := do
  modify fun world =>
    { world with
      hubs := world.hubs.modify hub fun part => { part with hub := part.hub.publish event } }
  raise (.hub hub .published)

def hub (index : Nat) : Sim HubPart := return (← get).hubs.getD index default

def setHub (index : Nat) (hub : Hub) : Sim Unit :=
  modify fun world =>
    { world with hubs := world.hubs.modify index fun part => { part with hub } }

def topic (index : Nat) : Sim TopicPart := return (← get).topics.getD index default

/-- Wake those who wait for what has happened to a batcher. -/
def announceBatcher {Item : Type} (owner : Owner) (before after : Batcher Item) : Sim Unit := do
  for (id, _) in (after.answers.take (after.answers.length - before.answers.length)).reverse do
    raise (.answered owner id)
  if before.idleNotices != after.idleNotices then raise (.idle owner)

/-- Change the batcher of the scenario. -/
def setBatcher (after : Batcher PlannedItem) : Sim Unit := do
  let before := (← get).batcher
  modify fun world => { world with batcher := after }
  announceBatcher .scenario before after

/-- Change the shared state of a topic and wake those who wait for the change. -/
def setTopic (index : Nat) (after : Topic) : Sim Unit := do
  let before := (← topic index).topic
  modify fun world =>
    { world with
      topics := world.topics.modify index fun part => { part with topic := after } }
  announceBatcher (.endpoint (.topic index)) before.batcher after.batcher
  if !before.backgroundEnded && after.backgroundEnded then
    raise (.cancelled (.background (.topic index)))

def setTopicDriver (index : Nat) (driver : TopicDriver) : Sim Unit :=
  modify fun world =>
    { world with topics := world.topics.modify index fun part => { part with driver } }

def subscription (index : Nat) : Sim SubscriptionPart :=
  return (← get).subscriptions.getD index default

/-- Change the shared state of a subscription and wake those who wait for the change. -/
def setSubscription (index : Nat) (after : Subscription Float) : Sim Unit := do
  let before := (← subscription index).subscription
  modify fun world =>
    { world with
      subscriptions := world.subscriptions.modify index fun part =>
        { part with subscription := after } }
  if let some acksBefore := before.acks then
    if let some acksAfter := after.acks then
      announceBatcher (.endpoint (.subscription index)) acksBefore acksAfter
  if before.woken.length != after.woken.length then raise (.fetched index)
  if !before.backgroundEnded && after.backgroundEnded then
    raise (.cancelled (.background (.subscription index)))

def setSubscriptionDriver (index : Nat) (driver : SubscriptionDriver) : Sim Unit :=
  modify fun world =>
    { world with
      subscriptions := world.subscriptions.modify index fun part => { part with driver } }

def broker (index : Nat) : Sim Broker := return (← get).brokers.getD index default

def setBroker (index : Nat) (broker : Broker) : Sim Unit :=
  modify fun world => { world with brokers := world.brokers.modify index fun _ => broker }

/-- End the context of the driver calls of an endpoint. -/
def endBackground (endpoint : Endpoint) : Sim Unit := do
  match endpoint with
  | .topic index => setTopic index (← topic index).topic.endBackground
  | .subscription index => setSubscription index (← subscription index).subscription.endBackground

def hold (endpoint : Endpoint) : Sim Unit :=
  modify fun world =>
    match endpoint with
    | .topic index =>
        { world with
          topics := world.topics.modify index fun part =>
            { part with holders := part.holders + 1 } }
    | .subscription index =>
        { world with
          subscriptions := world.subscriptions.modify index fun part =>
            { part with holders := part.holders + 1 } }

/-- Let go of an endpoint. The last one to do so ends the context of its driver calls. -/
def release (endpoint : Endpoint) : Sim Unit := do
  let left ←
    match endpoint with
    | .topic index => do
        let left := (← topic index).holders - 1
        modify fun world =>
          { world with
            topics := world.topics.modify index fun part => { part with holders := left } }
        pure left
    | .subscription index => do
        let left := (← subscription index).holders - 1
        modify fun world =>
          { world with
            subscriptions := world.subscriptions.modify index fun part =>
              { part with holders := left } }
        pure left
  if left = 0 then endBackground endpoint

/-- A call of the scenario ended. -/
def finish (label result : String) : Sim Unit := do
  note (.finished label result)
  modify fun world => { world with unfinished := world.unfinished.erase label }

/-- What a task finds around it now. Chance picks the shortest delay, and what a task waited
for counts before the end of its context. -/
def moment : Sim Moment :=
  return { now := (← get).now, contextFirst := false, pick := Delays.shortest }

/-- Go on with a task after a turn, or end it. -/
def follow {Task Result : Type}
    (next : Next Task Result)
    (wrap : Task → Activity)
    (finish : Result → Sim Unit) : Sim (Next Activity Unit) := do
  match next with
  | .continue task => return .continue (wrap task)
  | .wait task => return .wait (wrap task)
  | .done result =>
      finish result
      return .done ()

end Sim

end Simulation
end PubSub
