import PubSub.Simulation.Topics
import PubSub.Text.Json

/-!
# Subscriptions of a simulation

One step of each task on a subscription: the task of the library takes a turn, the
subscription is stored, and what the turn asks for is carried out. Driver calls are
kept with their activity by their places in the group that makes them.

A received message is kept under the label of its call until the scenario drops it.
-/

namespace PubSub
namespace Simulation

/-- A driver call of a subscription that has begun. -/
inductive Begun
  | receive (place : Nat) (call : ReceiveCall)
  | unit (place : Nat) (call : UnitCall)

namespace Begun

def keepReceives (calls : List (Nat × ReceiveCall)) (begun : List Begun) :
    List (Nat × ReceiveCall) :=
  begun.foldl
    (fun known call =>
      match call with
      | .receive place call => setEntry place call known
      | .unit .. => known)
    calls

def keepUnits (calls : List (Nat × UnitCall)) (begun : List Begun) : List (Nat × UnitCall) :=
  begun.foldl
    (fun known call =>
      match call with
      | .receive .. => known
      | .unit place call => setEntry place call known)
    calls

end Begun

namespace Sim

/-- Carry out what a turn on a subscription asks for: the driver call that begins, if one
does. -/
def performSubscription (index : Nat) : Subscription.Effect → Sim (Option Begun)
  | .publish event => do
      publish (← subscription index).hub event
      return none
  | .batching (.startHandler batch) => do
      spawn (.sendAcks index (.announcing batch) [])
      return none
  | .batching (.startLinger wakeAt) => do
      spawn (.linger (.endpoint (.subscription index)) wakeAt)
      return none
  | .startFetch number sizes => do
      spawn (.fetch index (.ofSizes number sizes) [])
      return none
  | .receiveBatch _ place requested =>
      return some (.receive place (← beginReceive index requested))
  | .sendAcks _ place call => return some (.unit place (← beginSettle index call))
  | .close => return some (.unit 0 (← beginClose (.subscription index)))

/-- Store a turn on a subscription: the driver calls that begin. -/
def applySubscription {Task Result : Type}
    (index : Nat)
    (turn : Turn (Subscription Float) Task Result Subscription.Effect) : Sim (List Begun) := do
  setSubscription index turn.state
  turn.effects.filterMapM (performSubscription index)

/-! ## Kept messages -/

/-- A message that the scenario no longer keeps. -/
def dropMessage (index : Nat) (message : Message) : Sim Unit := do
  if message.isNeglected then
    publish (← subscription index).hub Subscription.neglectedEvent

/-- Keep a message under a name; one that had the name before is dropped. -/
def keepMessage (label : String) (index : Nat) (message : Message) : Sim Unit := do
  let before := (← get).messages.lookup label
  modify fun world => { world with messages := setEntry label (index, message) world.messages }
  if let some (owner, old) := before then dropMessage owner old

/-- Hand an acknowledgment or a refusal to the driver; one that comes too late is lost. -/
def handOver (index : Nat) (request : AckRequest) : Sim Unit := do
  let held := (← subscription index).subscription
  if let some acks := held.acks then
    if let .ok (_, dispatch) := acks.accept request.byteSize request then
      discard <| applySubscription index
        (held.onAcks (Batcher.dispatched (← moment) dispatch (.done () : Next Unit Unit)))

/-! ## Receivers -/

/-- The attributes of a message as a list of pairs, in the order of their keys. -/
def attributesJson (message : Message) : String :=
  Text.jsonList (message.sortedMetadata.map fun entry =>
    Text.jsonList [Text.jsonString (Text.ofBytes entry.1), Text.jsonString (Text.ofBytes entry.2)])

def receivedLine (message : Message) : String :=
  "ok body=" ++ Text.ofBytes message.body
    ++ " meta=" ++ attributesJson message
    ++ " native=" ++ message.native.elim "-" Nat.repr

def finishReceive (label : String) (index : Nat) (result : Outcome Message) : Sim Unit := do
  match result with
  | .error error => finishOn (.subscription index) label (outcomeText (.error error))
  | .ok message =>
      keepMessage label index message
      finishOn (.subscription index) label (receivedLine message)

def stepReceive (label context : String) (index : Nat) (task : Subscription.Receiver) :
    Sim (Next Activity Unit) := do
  let cancelled ← isCancelled (.context context)
  let turn := task.step (← moment) cancelled (← subscription index).subscription
  discard <| applySubscription index turn
  follow turn.next (.receive label context index) (finishReceive label index)

/-! ## Background receives and acknowledgments -/

/-- Look at the call of a group that is awaited, if there is one. -/
def lookAtAwaited {Call Result : Type}
    (awaited : Option Nat)
    (calls : List (Nat × Call))
    (look : Call → Sim (Call × Answer Result)) : Sim (List (Nat × Call) × Answer Result) := do
  match awaited.bind fun place => (calls.lookup place).map fun call => (place, call) with
  | none => return (calls, .running)
  | some (place, call) =>
      let (later, answer) ← look call
      return (setEntry place later calls, answer)

/-- One step of a background receive. -/
def stepFetch
    (index : Nat)
    (task : Subscription.Fetch)
    (calls : List (Nat × ReceiveCall)) : Sim (Next Activity Unit) := do
  let token := Token.background (.subscription index)
  let (calls, answer) ← lookAtAwaited task.awaited? calls (lookAtReceive token)
  let turn := task.step (← moment) answer (← subscription index).subscription
  let begun ← applySubscription index turn
  follow turn.next (fun task => .fetch index task (Begun.keepReceives calls begun)) fun _ => pure ()

/-- One step of the handler of a batch of acknowledgments. -/
def stepSendAcks
    (index : Nat)
    (task : Subscription.Handler)
    (calls : List (Nat × UnitCall)) : Sim (Next Activity Unit) := do
  let look (call : UnitCall) : Sim (UnitCall × Answer (Except Fault Unit)) :=
    return (call, ← lookAtUnit call)
  let (calls, answer) ← lookAtAwaited task.awaited? calls look
  let turn := task.step (← moment) answer (← subscription index).subscription
  let begun ← applySubscription index turn
  follow turn.next (fun task => .sendAcks index task (Begun.keepUnits calls begun)) fun _ => pure ()

end Sim
end Simulation
end PubSub
