import PubSub.Simulation.Batching
import PubSub.Simulation.Hubs
import PubSub.Simulation.Subscriptions

/-!
# Steps of activities

`Sim.step` is one step of an activity. The steps of callers of the broker, of linger
timers, of shutdowns and of retried operations are described here; the others stand
beside the parts of the world that they work on.
-/

namespace PubSub
namespace Simulation
namespace Sim

/-! ## Timers and shutdowns -/

def stepLinger (owner : Owner) (wakeAt : Nat) : Sim (Next Activity Unit) := do
  match owner with
  | .scenario =>
      let turn := (← get).batcher.lingerStep (← moment) wakeAt
      applyItems turn
      follow turn.next (.linger owner) fun _ => pure ()
  | .endpoint (.topic index) =>
      let turn := Topic.lingerStep (← moment) (← topic index).topic wakeAt
      discard <| applyTopic index turn
      follow turn.next (.linger owner) fun _ => pure ()
  | .endpoint (.subscription index) =>
      let turn := Subscription.lingerStep (← moment) (← subscription index).subscription wakeAt
      discard <| applySubscription index turn
      follow turn.next (.linger owner) fun _ => pure ()

/-- Go on with a shutdown after a turn. Once the driver is closed, the hub follows. -/
def followClosing
    (label context : String)
    (endpoint : Endpoint)
    (call : Option UnitCall) : Next Closing Closed → Sim (Next Activity Unit)
  | .continue task => return .continue (.close label context endpoint task call)
  | .wait task => return .wait (.close label context endpoint task call)
  | .done (.refused error) => do
      finishOn endpoint label error.line
      return .done ()
  | .done (.panicked info) => do
      finishOn endpoint label ("panic " ++ info)
      return .done ()
  | .done (.closed result) => return .continue (.closeHub label endpoint result .begin)

def stepClose
    (label context : String)
    (endpoint : Endpoint)
    (task : Closing)
    (call : Option UnitCall) : Sim (Next Activity Unit) := do
  let answer ← lookAtOptional call
  let cancelled ← isCancelled (.context context)
  match endpoint with
  | .topic index =>
      let turn := Topic.closingStep (← moment) cancelled answer (← topic index).topic task
      let begun ← applyTopic index turn
      followClosing label context endpoint (begun.or call) turn.next
  | .subscription index =>
      let held := (← subscription index).subscription
      let turn := Subscription.closingStep (← moment) cancelled answer held task
      let begun ← applySubscription index turn
      let calls := Begun.keepUnits (call.map fun call => (0, call)).toList begun
      followClosing label context endpoint (calls.lookup 0) turn.next

/-- One step of the end of a shutdown. -/
def stepCloseHub
    (label : String)
    (endpoint : Endpoint)
    (result : Outcome Unit)
    (task : Hub.Ending) : Sim (Next Activity Unit) := do
  let place := (← get).hubOf endpoint
  stepEnding place task (.closeHub label endpoint result) (finishOn endpoint label result.line)

/-! ## Callers of the broker -/

/-- The outcome of a call on the broker. -/
def brokerText (result : Except BrokerError String) : String :=
  match result with
  | .ok detail => "ok" ++ detail
  | .error cause => "error " ++ cause.code.label ++ " " ++ cause.message ++ " retry=false"

def stepBrokerSend
    (label context : String)
    (place : Nat)
    (envelopes : List Envelope) : Sim (Next Activity Unit) := do
  let cancelled ← isCancelled (.context context)
  let (result, after) := (← broker place).send cancelled envelopes
  setBroker place after
  announceArrivals place result
  finish label (brokerText (result.map fun _ => ""))
  return .done ()

/-- A message that was received from the broker; one without a token is marked. -/
def receivedText (envelope : Envelope) : String :=
  (if envelope.ackId.isNone then "!" else "") ++ Text.ofBytes envelope.body

/-- Keep the tokens of received messages under numbered names. -/
def keepAckIds (label : String) (envelopes : List Envelope) : Sim Unit :=
  modify fun world =>
    { world with
      ackIds := envelopes.zipIdx.foldl
        (fun known (envelope, index) =>
          match envelope.ackId with
          | none => known
          | some id => setEntry (label ++ "#" ++ Nat.repr index) id known)
        world.ackIds }

def finishBrokerReceive (label : String) (result : Except BrokerError (List Envelope)) :
    Sim Unit := do
  if let .ok envelopes := result then keepAckIds label envelopes
  finish label (brokerText (result.map fun envelopes => " " ++ joined (envelopes.map receivedText)))

def stepBrokerReceive
    (label context : String)
    (place feed : Nat)
    (receiver : FeedReceiver) : Sim (Next Activity Unit) := do
  match ← lookAtFeed place feed (.context context) receiverTurns receiver with
  | (later, .running) => return .wait (.brokerReceive label context place feed later)
  | (_, .panicked info) =>
      finish label ("panic " ++ info)
      return .done ()
  | (_, .returned result) =>
      finishBrokerReceive label result
      return .done ()

/-- Acknowledge or refuse messages of the broker. -/
def stepBrokerSettle
    (label context : String)
    (place feed : Nat)
    (isAck : Bool)
    (ids : List AckId) : Sim (Next Activity Unit) := do
  let result ← settleFeed place feed (.context context) isAck ids
  finish label (brokerText (result.map fun _ => ""))
  return .done ()

def stepBrokerClose (label : String) (place : Nat) (feed : Option Nat) :
    Sim (Next Activity Unit) := do
  match feed with
  | none => setBroker place (← broker place).close
  | some index => closeFeed place index
  finish label (brokerText (.ok ""))
  return .done ()

/-! ## Retried operations of a scenario -/

/-- Begin an attempt of the scenario's operation. -/
def beginAttempt (part : RetriedPart) : Sim Attempt := do
  note .attempt
  let (cue, value) := part.script.headD ({}, "end")
  modify fun world => { world with retried := some { part with script := part.script.tail } }
  return { play := ← play cue (.context part.context), value }

def lookAtAttempt (attempt : Option Attempt) : Sim (Answer (Except Fault String)) := do
  match attempt with
  | none => return .running
  | some attempt =>
      match ← lookAtPlay attempt.play with
      | .running => return .running
      | .panicked info => return .panicked info
      | .returned result => return .returned (result.map fun _ => attempt.value)

/-- The scenario's operation is over. -/
def endRetried (record : RetriedPart → RetriedPart) : Sim (Next Activity Unit) := do
  modify fun world => { world with retried := world.retried.map record }
  return .done ()

/-- One step of the scenario's retried operation. -/
def stepRetried (phase : Retry.Phase) (attempt : Option Attempt) : Sim (Next Activity Unit) := do
  let some part := (← get).retried | return .done ()
  let answer ← lookAtAttempt attempt
  let cancelled ← isCancelled (.context part.context)
  match phase.step part.plan cancelled (← moment) answer with
  | .wait => return .wait (.retried phase attempt)
  | .call failures => return .continue (.retried (.calling failures) (some (← beginAttempt part)))
  | .announce event next => do
      publish 0 event
      return .continue (.retried next none)
  | .continue next => return .continue (.retried next none)
  | .finish result => endRetried fun part => { part with result := some result }
  | .crash info => endRetried fun part => { part with crash := some info }

def stepCancelAt (context : String) (time : Nat) : Sim (Next Activity Unit) := do
  if (← get).now < time then return .wait (.cancelAt context time)
  cancelContext context
  return .done ()

/-! ## All activities -/

def step : Activity → Sim (Next Activity Unit)
  | .addItem label context task => stepAddItem label context task
  | .flush label task => stepFlush label task
  | .handleItems task running => stepItems task running
  | .linger owner wakeAt => stepLinger owner wakeAt
  | .send label context index task => stepSend label context index task
  | .sendBatch index task call => stepSendBatch index task call
  | .receive label context index task => stepReceive label context index task
  | .fetch index task calls => stepFetch index task calls
  | .sendAcks index task calls => stepSendAcks index task calls
  | .close label context endpoint task call => stepClose label context endpoint task call
  | .closeHub label endpoint result task => stepCloseHub label endpoint result task
  | .subscriber place index plan task wakeAt => stepSubscriber place index plan task wakeAt
  | .listener place => stepListener place
  | .observer place => stepObserver place
  | .drain label place task =>
      stepEnding place task (.drain label place) (finish label (Outcome.line (.ok ())))
  | .brokerSend label context place envelopes => stepBrokerSend label context place envelopes
  | .brokerReceive label context place feed receiver =>
      stepBrokerReceive label context place feed receiver
  | .brokerSettle label context place feed isAck ids =>
      stepBrokerSettle label context place feed isAck ids
  | .brokerClose label place feed => stepBrokerClose label place feed
  | .retried phase attempt => stepRetried phase attempt
  | .cancelAt context time => stepCancelAt context time

end Sim
end Simulation
end PubSub
