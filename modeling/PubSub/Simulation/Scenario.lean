import PubSub.Simulation.Scheduler

/-!
# Scenarios

A scenario is a list of commands to a world. A command may start tasks and may reply
at once; after it everything runs that can run without time passing. Only
`Command.advance` lets time pass.

The answer to a command has the time afterwards, the notes taken meanwhile and the
reply.
-/

namespace PubSub
namespace Simulation

/-- How a topic or a subscription of a scenario reaches its messages. -/
inductive DriverKind
  | script
  /-- A script behind a driver that implements only what it must. -/
  | minimal
  | broker (name : String)
  deriving DecidableEq

/-- What a topic of a scenario is made of. -/
structure TopicPlan where
  name : String
  driver : DriverKind
  script : Script Cue := .sequence []
  closing : Cue := {}
  batching : BatchOptions := {}
  retry : Backoff := Backoff.immediate
  busCapacity : Nat := 1024
  subscribers : List SubscriberPlan := []

/-- What a subscription of a scenario is made of. -/
structure SubscriptionPlan where
  name : String
  driver : DriverKind
  receives : List (Cue × List Envelope) := []
  sourceSize : Nat := 0
  sourceMillis : Nat := 0
  acks : Script Cue := .sequence []
  nacks : Script Cue := .sequence []
  atMostOnce : Bool := false
  /-- Acknowledgment deadline at the broker; none for delivery at most once. -/
  deadline : Option Duration := none
  closing : Cue := {}
  receiving : BatchOptions := {}
  acknowledging : BatchOptions := {}
  retry : Backoff := Backoff.immediate
  tuning : Tuning Float := Tuning.standard
  busCapacity : Nat := 1024
  subscribers : List SubscriberPlan := []

/-- A message to be sent, with the label of its call. -/
structure Outgoing where
  label : String
  message : Message

/-- A topic or a subscription by its name. -/
inductive EndpointName
  | topic (name : String)
  | subscription (name : String)

/-- A command to a world. -/
inductive Command
  | advance (millis : Nat)
  | cancel (context : String)
  /-- Add items to the scenario's batcher, one call for each. -/
  | addItems (context : String) (items : List PlannedItem)
  | addItemsNow (items : List PlannedItem)
  | flushItems (label : String)
  | showBatcher
  /-- Offer events to the scenario's subscribers. -/
  | emit (events : List Event)
  | drainSubscribers (label : String)
  | newBroker (name : String)
  | newTopic (plan : TopicPlan)
  | newSubscription (plan : SubscriptionPlan)
  | send (topic context : String) (messages : List Outgoing)
  | receive (subscription context : String) (labels : List String)
  /-- Acknowledge or refuse kept messages. -/
  | complete (isAck : Bool) (labels : List String)
  | dropMessages (labels : List String)
  | showMessages (labels : List String)
  | attribute (label key : String)
  | shutdown (endpoint : EndpointName) (context label : String)
  | dropHandle (endpoint : EndpointName)
  | showDriver (endpoint : EndpointName)
  | outstanding (subscription : String)
  | newFeed (name broker : String) (deadline : Option Duration)
  | brokerSend (label broker context : String) (envelopes : List Envelope)
  | brokerReceive (labels : List String) (feed context : String) (requested : Nat)
  | brokerSettle (label feed context : String) (isAck : Bool) (refs : List String)
  | brokerCloseTopic (label broker : String)
  | brokerCloseFeed (label feed : String)

/-- What a command replies at once. -/
inductive Reply
  | nothing
  | text (value : String)
  | texts (values : List String)
  | flag (value : Bool)
  | flags (values : List Bool)
  | count (value : Nat)
  | batcher (shown : String) (sameOptions : Bool)
  | driver (isScript isBroker : Bool) (receivers : Nat)
  | feed (hasHook : Bool)

namespace Sim

/-- Start a call of the scenario. -/
def call (label : String) (activity : Activity) : Sim Unit := do
  modify fun world => { world with unfinished := label :: world.unfinished }
  spawn activity

/-! ## Buses -/

/-- A new hub with its observer and its subscribers; the place of the hub. -/
def newHub (name : String) (busCapacity : Nat) (subscribers : List SubscriberPlan) :
    Sim Nat := do
  let place := (← get).hubs.size
  let hub := Hub.create busCapacity (subscribers.map SubscriberPlan.queue)
  let observed : Hub := { hub with bus := hub.bus.subscribe .observer }
  modify fun world => { world with hubs := world.hubs.push { name, hub := observed } }
  for (plan, index) in subscribers.zipIdx do spawn (.subscriber place index plan .idle 0)
  if hub.isListening then spawn (.listener place)
  spawn (.observer place)
  return place

/-- A new hub whose subscribers are fed by the scenario and not by the bus. -/
def newSubscribers (subscribers : List SubscriberPlan) : Sim Unit := do
  let bus : Broadcast BusReader Event := Broadcast.create SubscriberQueue.standardCapacity
  let hub : Hub :=
    { bus := bus.subscribe .observer, queues := subscribers.map SubscriberPlan.queue }
  modify fun world => { world with hubs := world.hubs.push { name := "bus", hub } }
  for (plan, index) in subscribers.zipIdx do spawn (.subscriber 0 index plan .idle 0)
  spawn (.observer 0)

/-! ## The scenario's batcher -/

def noteCounters : Sim Unit := do note (.counters (← get).batcher.stateLine)

/-! ## Topics and subscriptions -/

def find? (names : List (String × Nat)) (name : String) : Option Nat := names.lookup name

def endpoint? (name : EndpointName) : Sim (Option Endpoint) := do
  let world ← get
  match name with
  | .topic name => return (find? world.topicNames name).map Endpoint.topic
  | .subscription name =>
      return (find? world.subscriptionNames name).map Endpoint.subscription

/-- The name of an endpoint is forgotten: whether it was known. -/
def forgetHandle (name : EndpointName) : Sim Bool := do
  match ← endpoint? name with
  | none => return false
  | some endpoint =>
      modify fun world =>
        match name with
        | .topic name =>
            { world with topicNames := world.topicNames.filter (·.1 != name) }
        | .subscription name =>
            { world with subscriptionNames := world.subscriptionNames.filter (·.1 != name) }
      release endpoint
      return true

def topicDriver (plan : TopicPlan) : Sim TopicDriver := do
  match plan.driver with
  | .script => return .scripted false plan.script plan.closing
  | .minimal => return .scripted true plan.script plan.closing
  | .broker name => return .broker ((find? (← get).brokerNames name).getD 0)

def newTopic (plan : TopicPlan) : Sim Unit := do
  discard <| forgetHandle (.topic plan.name)
  let hub ← newHub plan.name plan.busCapacity plan.subscribers
  let index := (← get).topics.size
  let driver ← topicDriver plan
  let topic := Topic.create plan.batching plan.retry driver.classification
  modify fun world =>
    { world with
      topics := world.topics.push { name := plan.name, topic, driver, hub }
      topicNames := (plan.name, index) :: world.topicNames }

def attachFeed (place : Nat) (deadline : Option Duration) : Sim Nat := do
  let shared ← broker place
  setBroker place (shared.attach deadline)
  return shared.feeds.length

/-- The driver of a new subscription, and whether it delivers at most once. -/
def subscriptionDriver (plan : SubscriptionPlan) : Sim (SubscriptionDriver × Bool) := do
  let scripted (isMinimal atMostOnce : Bool) : SubscriptionDriver :=
    .scripted isMinimal atMostOnce plan.receives plan.acks plan.nacks plan.closing
  match plan.driver with
  | .script => return (scripted false plan.atMostOnce, plan.atMostOnce)
  | .minimal => return (scripted true false, false)
  | .broker name =>
      let place := (find? (← get).brokerNames name).getD 0
      let feed ← attachFeed place plan.deadline
      return (.broker place feed, plan.deadline.isNone)

def newSubscription (plan : SubscriptionPlan) : Sim Unit := do
  discard <| forgetHandle (.subscription plan.name)
  let (driver, atMostOnce) ← subscriptionDriver plan
  let hub ← newHub plan.name plan.busCapacity plan.subscribers
  let index := (← get).subscriptions.size
  let subscription :=
    Subscription.create plan.tuning plan.receiving plan.acknowledging plan.retry
      driver.classification atMostOnce
  modify fun world =>
    { world with
      subscriptions := world.subscriptions.push
        { name := plan.name
          subscription
          driver
          sourceSize := plan.sourceSize
          sourceMillis := plan.sourceMillis
          hub }
      subscriptionNames := (plan.name, index) :: world.subscriptionNames }

/-- Start a call on an endpoint, which keeps the endpoint until it ends. -/
def callOn (endpoint : Endpoint) (label : String) (activity : Activity) : Sim Unit := do
  hold endpoint
  call label activity

/-! ## Kept messages -/

def runHook (index : Nat) : Sim Unit := do
  let part ← subscription index
  match part.driver with
  | .scripted .. => note (.hookRan part.name)
  | .broker .. => return

def completeMessage (isAck : Bool) (label : String) : Sim String := do
  match (← get).messages.lookup label with
  | none => return "unknown"
  | some (index, message) =>
      let (step, after) := message.complete isAck
      modify fun world =>
        { world with messages := setEntry label (index, after) world.messages }
      match step with
      | .error misuse => return "panic " ++ misuse.message
      | .ok (.send request) =>
          handOver index request
          return "ok"
      | .ok .runHook =>
          runHook index
          return "ok"

/-- Keep a message no longer: whether it was kept. -/
def discardMessage (label : String) : Sim Bool := do
  match (← get).messages.lookup label with
  | none => return false
  | some (index, message) =>
      modify fun world =>
        { world with messages := world.messages.filter (·.1 != label) }
      dropMessage index message
      return true

/-! ## Looking at parts -/

/-- Whether the driver of an endpoint is a script or the broker, and how many read its
bus. -/
def driverReply (endpoint : Endpoint) : Sim Reply := do
  let receivers := (← hub ((← get).hubOf endpoint)).hub.bus.receiverCount
  match endpoint with
  | .topic index =>
      match (← topic index).driver with
      | .scripted isMinimal _ _ => return .driver (!isMinimal) false receivers
      | .broker _ => return .driver false true receivers
  | .subscription index =>
      match (← subscription index).driver with
      | .scripted isMinimal .. => return .driver (!isMinimal) false receivers
      | .broker .. => return .driver false true receivers

/-- The feed of a name: one of its own, or that of a subscription. -/
def feedNamed? (name : String) : Sim (Option (Nat × Nat)) := do
  let world ← get
  match world.feedNames.lookup name with
  | some place => return some place
  | none =>
      match find? world.subscriptionNames name with
      | none => return none
      | some index =>
          match (← subscription index).driver with
          | .scripted .. => return none
          | .broker place feed => return some (place, feed)

/-- How many messages a feed holds. -/
def outstandingReply (name : String) : Sim Reply := do
  match ← feedNamed? name with
  | none => return .nothing
  | some (place, feed) =>
      match (← broker place).feed? feed with
      | none => return .nothing
      | some held => return .count held.messages.length

/-! ## Commands -/

/-- Carry out a command, up to what runs after it. -/
def perform : Command → Sim Reply
  | .advance _ => return .nothing
  | .cancel context => do
      cancelContext context
      return .nothing
  | .addItems context items => do
      for item in items do call item.id (.addItem item.id context (.entering item.size item))
      noteCounters
      return .nothing
  | .addItemsNow items => do
      let results ← items.mapM addItemNow
      noteCounters
      return .texts results
  | .flushItems label => do
      call label (.flush label .starting)
      noteCounters
      return .nothing
  | .showBatcher => do
      noteCounters
      return .batcher (← get).batcher.shown true
  | .emit events => do
      for event in events do emit 0 event
      return .nothing
  | .drainSubscribers label => do
      call label (.drain label 0 .closingQueues)
      return .nothing
  | .newBroker name => do
      modify fun world =>
        { world with
          brokerNames := (name, world.brokers.size) :: world.brokerNames
          brokers := world.brokers.push {} }
      return .nothing
  | .newTopic plan => do
      newTopic plan
      return .nothing
  | .newSubscription plan => do
      newSubscription plan
      return .nothing
  | .send name context messages => do
      if let some index := find? (← get).topicNames name then
        for outgoing in messages do
          callOn (.topic index) outgoing.label
            (.send outgoing.label context index (.sending outgoing.message))
      return .nothing
  | .receive name context labels => do
      if let some index := find? (← get).subscriptionNames name then
        for label in labels do
          callOn (.subscription index) label (.receive label context index .asking)
      return .nothing
  | .complete isAck labels => return .texts (← labels.mapM (completeMessage isAck))
  | .dropMessages labels => return .flags (← labels.mapM discardMessage)
  | .showMessages labels => do
      let messages := (← get).messages
      return .texts (labels.map fun label =>
        (messages.lookup label).elim "unknown" fun kept => kept.2.shown)
  | .attribute label key => do
      match ((← get).messages.lookup label).bind fun kept => kept.2.metadataText? key with
      | none => return .nothing
      | some value => return .text value
  | .shutdown name context label => do
      if let some endpoint ← endpoint? name then
        callOn endpoint label (.close label context endpoint .begin none)
      return .nothing
  | .dropHandle name => return .flag (← forgetHandle name)
  | .showDriver name => do
      match ← endpoint? name with
      | none => return .nothing
      | some endpoint => driverReply endpoint
  | .outstanding name => outstandingReply name
  | .newFeed name brokerName deadline => do
      let place := (find? (← get).brokerNames brokerName).getD 0
      let feed ← attachFeed place deadline
      modify fun world => { world with feedNames := (name, place, feed) :: world.feedNames }
      return .feed deadline.isNone
  | .brokerSend label brokerName context envelopes => do
      if let some place := find? (← get).brokerNames brokerName then
        call label (.brokerSend label context place envelopes)
      return .nothing
  | .brokerReceive labels name context requested => do
      if let some (place, feed) ← feedNamed? name then
        for label in labels do
          call label (.brokerReceive label context place feed { requested })
      return .nothing
  | .brokerSettle label name context isAck refs => do
      if let some (place, feed) ← feedNamed? name then
        let known := (← get).ackIds
        let ids := refs.map fun ref => (known.lookup ref).getD .placeholder
        call label (.brokerSettle label context place feed isAck ids)
      return .nothing
  | .brokerCloseTopic label brokerName => do
      if let some place := find? (← get).brokerNames brokerName then
        call label (.brokerClose label place none)
      return .nothing
  | .brokerCloseFeed label name => do
      if let some (place, feed) ← feedNamed? name then
        call label (.brokerClose label place (some feed))
      return .nothing

end Sim

/-- The answer to a command. -/
structure StepAnswer where
  /-- Time afterwards, in milliseconds. -/
  time : Nat
  /-- Times and texts of the notes. -/
  log : List (Nat × String)
  reply : Reply
  /-- Counters of the scenario's batcher. -/
  counters : String

namespace World

/-- Carry out a command and everything that follows from it without time passing. -/
def command (world : World) (command : Command) : StepAnswer × World :=
  let (reply, performed) := (Sim.perform command).run { world with notes := [] }
  let after :=
    match command with
    | .advance millis => performed.elapse millis
    | _ => performed.settle
  ({ time := after.now / 1000000
     log := TimedNote.shown after.notes
     reply
     counters := after.batcher.stateLine }, after)

/-- Carry out the commands of a scenario. -/
def commands (world : World) : List Command → List StepAnswer × World
  | [] => ([], world)
  | first :: rest =>
      let (answer, after) := world.command first
      let (answers, last) := commands after rest
      (answer :: answers, last)

/-- Labels of the calls that have not ended, in order. -/
def openCalls (world : World) : List String :=
  world.unfinished.mergeSort fun left right => left ≤ right

def withBatcher (options : BatchOptions) : World := { batcher := Batcher.create options }

def withSubscribers (subscribers : List SubscriberPlan) : World :=
  ((Sim.newSubscribers subscribers).run {}).2.settle

end World

/-- What a retried operation of a scenario is made of. -/
structure RetryScenario where
  plan : RetryPlan
  /-- Cues of the attempts, with the value of a success. -/
  script : List (Cue × String)
  /-- Whether the context is cancelled before the call. -/
  startsCancelled : Bool := false
  /-- Time in milliseconds at which the context is cancelled. -/
  cancelAt : Option Nat := none

/-- How a retried operation of a scenario ended. -/
structure RetryAnswer where
  time : Nat
  log : List (Nat × String)
  /-- The value, or the error; none if the operation ended abnormally or not at all. -/
  result : Option (Outcome String)
  /-- How the operation ended abnormally. -/
  crash : Option String

def retryContext : String := "c"

def Sim.startRetried (scenario : RetryScenario) : Sim Unit := do
  discard <| newHub "bus" SubscriberQueue.standardCapacity []
  if scenario.startsCancelled then cancelContext retryContext
  modify fun world =>
    { world with
      retried := some
        { plan := scenario.plan, context := retryContext, script := scenario.script } }
  spawn (.retried (.starting 0) none)
  if let some millis := scenario.cancelAt then spawn (.cancelAt retryContext (millis * 1000000))

def RetryScenario.run (scenario : RetryScenario) : RetryAnswer :=
  let isOver (world : World) : Bool :=
    world.retried.any fun part => part.result.isSome || part.crash.isSome
  let started := ((Sim.startRetried scenario).run {}).2.settle
  let last := started.elapseUntil isOver World.turnLimit
  { time := last.now / 1000000
    log := TimedNote.shown last.notes
    result := last.retried.bind RetriedPart.result
    crash := last.retried.bind RetriedPart.crash }

end Simulation
end PubSub
