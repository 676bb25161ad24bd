import PubSub.Simulation.World

/-!
# Simulated drivers

A driver call is begun once and then looked at until it has an answer. Calls on the
in-memory broker act on the broker itself; scripted calls follow their cue and take
notes of how they were asked and how they replied.
-/

namespace PubSub
namespace Simulation

/-! ## Classification -/

/-- Whether a scripted driver calls an error transient. -/
def scriptRetries : Fault → Bool
  | .scripted _ _ isRetryable => isRetryable
  | _ => false

/-- The code a scripted driver gives an error; a minimal one gives none. -/
def scriptCode (isMinimal : Bool) (fault : Fault) : ErrorCode :=
  if isMinimal then .unknown
  else
    match fault with
    | .scripted _ code _ => code
    | _ => .unknown

/-- How a scripted driver judges its errors. -/
def scriptClassification (isMinimal : Bool) : Classification :=
  { isRetryable := scriptRetries, codeOf := scriptCode isMinimal }

def TopicDriver.classification : TopicDriver → Classification
  | .scripted isMinimal _ _ => scriptClassification isMinimal
  | .broker _ => Broker.classification

def SubscriptionDriver.classification : SubscriptionDriver → Classification
  | .scripted isMinimal .. => scriptClassification isMinimal
  | .broker .. => Broker.classification

namespace Sim

/-! ## Scripted calls -/

def play (cue : Cue) (token : Token) : Sim Play :=
  return { cue, token, wakeAt := (← get).now + cue.waitMillis * 1000000 }

/-- What a scripted call has come to. -/
def lookAtPlay (play : Play) : Sim (Answer (Except Fault Unit)) := do
  if (← get).now < play.wakeAt then return .running
  if play.cue.hangs then
    if ← isCancelled play.token then return .returned (.error Cue.hungUp)
    else return .running
  if let some name := play.cue.cancels then cancelContext name
  match play.cue.panics with
  | some info => return .panicked info
  | none => return .returned play.cue.result

/-- What a driver call without a value has come to. -/
def lookAtUnit (call : UnitCall) : Sim (Answer (Except Fault Unit)) := do
  match call with
  | .ended result => return .returned result
  | .scripted play owner operation subject =>
      let answer ← lookAtPlay play
      if let .returned result := answer then
        note (.replied owner operation (some subject) (result.map fun _ => ""))
      return answer
  | .closing play owner =>
      let answer ← lookAtPlay play
      if let .returned result := answer then note (.closed owner result)
      return answer

/-- What a driver call has come to that may not have begun. -/
def lookAtOptional (call : Option UnitCall) : Sim (Answer (Except Fault Unit)) := do
  match call with
  | none => return .running
  | some call => lookAtUnit call

/-- Wake the receivers of a broker after messages were sent. -/
def announceArrivals (place : Nat) (result : Except BrokerError Unit) : Sim Unit := do
  if let .ok _ := result then
    for feed in List.range (← broker place).feeds.length do raise (.feedChanged place feed)

/-! ## Topics -/

def beginSend (index : Nat) (envelopes : List Envelope) : Sim UnitCall := do
  let part ← topic index
  match part.driver with
  | .scripted isMinimal script closing =>
      let first := (envelopes.head?.map fun envelope => Text.ofBytes envelope.body).getD ""
      note (.asked part.name Topic.operation (joined (envelopes.map envelopeText)))
      let (cue, rest) := script.take first
      setTopicDriver index (.scripted isMinimal rest closing)
      return .scripted (← play (cue.getD {}) (.background (.topic index)))
        part.name Topic.operation first
  | .broker place =>
      let cancelled ← isCancelled (.background (.topic index))
      let (result, after) := (← broker place).send cancelled envelopes
      setBroker place after
      announceArrivals place result
      return .ended (result.mapError Fault.broker)

/-! ## Subscriptions -/

/-- The name of a message of the source. -/
def sourceEnvelope (number : Nat) : Envelope :=
  let name := "m" ++ Nat.repr number
  { body := Text.encode name, ackId := some (.text name) }

def takeFromSource (index requested : Nat) : Sim (List Envelope) := do
  let part ← subscription index
  let count := min requested (part.sourceSize - part.sourceTaken)
  modify fun world =>
    { world with
      subscriptions := world.subscriptions.modify index fun part =>
        { part with sourceTaken := part.sourceTaken + count } }
  return (List.range' part.sourceTaken count).map sourceEnvelope

/-- Begin to receive at most so many messages. -/
def beginReceive (index requested : Nat) : Sim ReceiveCall := do
  let part ← subscription index
  let token := Token.background (.subscription index)
  match part.driver with
  | .scripted isMinimal atMostOnce receives acks nacks closing =>
      note (.asked part.name Subscription.receiveOperation ("max=" ++ Nat.repr requested))
      match receives with
      | (cue, envelopes) :: rest =>
          setSubscriptionDriver index (.scripted isMinimal atMostOnce rest acks nacks closing)
          return .scripted (← play cue token) part.name envelopes
      | [] =>
          match ← takeFromSource index requested with
          | [] => return .scripted (← play { hangs := true } token) part.name []
          | envelopes =>
              let cue : Cue := { waitMillis := part.sourceMillis }
              return .scripted (← play cue token) part.name envelopes
  | .broker place feed => return .feed place feed { requested }

/-- The number of turns after which a receiver of a feed waits or is done: one that is woken
opens the feed and looks. -/
def receiverTurns : Nat := 3

/-- At most so many turns of a receiver of a feed under a token: what it waits for then, and
what it has come to. -/
def lookAtFeed (place feed : Nat) (token : Token) : (turns : Nat) → FeedReceiver →
    Sim (FeedReceiver × Answer (Except BrokerError (List Envelope)))
  | 0, receiver => return (receiver, .running)
  | turns + 1, receiver => do
      let shared ← broker place
      let held := (shared.feed? feed).getD { ackDeadline := none }
      let turn := receiver.step (← moment) (← isCancelled token) held
      setBroker place (shared.setFeed feed turn.state)
      match turn.next with
      | .continue later => lookAtFeed place feed token turns later
      | .wait later => return (later, .running)
      | .done result => return (receiver, .returned result)

def lookAtReceive (token : Token) (call : ReceiveCall) :
    Sim (ReceiveCall × Answer (Except Fault (List Envelope))) := do
  match call with
  | .scripted play owner envelopes =>
      match ← lookAtPlay play with
      | .running => return (call, .running)
      | .panicked info => return (call, .panicked info)
      | .returned (.error fault) =>
          note (.replied owner Subscription.receiveOperation none (.error fault))
          return (call, .returned (.error fault))
      | .returned (.ok _) =>
          note (.replied owner Subscription.receiveOperation none
            (.ok (" n=" ++ Nat.repr envelopes.length)))
          return (call, .returned (.ok envelopes))
  | .feed place feed receiver =>
      match ← lookAtFeed place feed token receiverTurns receiver with
      | (later, .running) => return (.feed place feed later, .running)
      | (later, .panicked info) => return (.feed place feed later, .panicked info)
      | (later, .returned result) =>
          return (.feed place feed later, .returned (result.mapError Fault.broker))

/-- Acknowledge or refuse messages at a feed of the broker. -/
def settleFeed (place feed : Nat) (token : Token) (isAck : Bool) (ids : List AckId) :
    Sim (Except BrokerError Unit) := do
  let cancelled ← isCancelled token
  let shared ← broker place
  let held := (shared.feed? feed).getD { ackDeadline := none }
  let (result, after) :=
    if isAck then held.acknowledge cancelled ids else held.refuse cancelled ids
  setBroker place (shared.setFeed feed after)
  if !isAck then raise (.feedChanged place feed)
  return result

/-- Begin to acknowledge or to refuse messages. -/
def beginSettle (index : Nat) (call : Subscription.AckCall) : Sim UnitCall := do
  let part ← subscription index
  let token := Token.background (.subscription index)
  match part.driver with
  | .scripted isMinimal atMostOnce receives acks nacks closing =>
      if isMinimal && !call.isAck then return .ended (.error (.notSupported call.operation))
      let first := (call.ids.head?.map ackIdText).getD ""
      note (.asked part.name call.operation (joined (call.ids.map ackIdText)))
      let (cue, rest) := (if call.isAck then acks else nacks).take first
      setSubscriptionDriver index
        (if call.isAck then .scripted isMinimal atMostOnce receives rest nacks closing
          else .scripted isMinimal atMostOnce receives acks rest closing)
      return .scripted (← play (cue.getD {}) token) part.name call.operation first
  | .broker place feed =>
      let result ← settleFeed place feed token call.isAck call.ids
      return .ended (result.mapError Fault.broker)

/-! ## Closing -/

def closeFeed (place feed : Nat) : Sim Unit := do
  setBroker place ((← broker place).closeFeed feed)
  raise (.feedChanged place feed)

/-- Begin to close the driver of an endpoint. A minimal driver has nothing to close. -/
def beginClose (endpoint : Endpoint) : Sim UnitCall := do
  match endpoint with
  | .topic index =>
      let part ← topic index
      match part.driver with
      | .scripted true _ _ => return .ended (.ok ())
      | .scripted false _ cue => return .closing (← play cue .never) part.name
      | .broker place =>
          setBroker place (← broker place).close
          return .ended (.ok ())
  | .subscription index =>
      let part ← subscription index
      match part.driver with
      | .scripted true _ _ _ _ _ => return .ended (.ok ())
      | .scripted false _ _ _ _ cue => return .closing (← play cue .never) part.name
      | .broker place feed =>
          closeFeed place feed
          return .ended (.ok ())

end Sim
end Simulation
end PubSub
