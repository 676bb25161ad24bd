import PubSub.Event.Basic
import PubSub.Event.Broadcast

/-!
# Sessions on a bus

A session works on one bus by hand. Senders are named; the bus is closed when the last
of them is dropped. Receivers are named too, and are asked for events without waiting.
-/

namespace PubSub
namespace Simulation

/-- A bus with named senders and receivers. -/
structure BusSession where
  bus : Broadcast String Event
  senders : List String

/-- A command of a session. -/
inductive BusCommand
  | subscribe (receiver : String)
  | unsubscribe (receiver : String)
  | publish (sender : String) (events : List Event)
  | clone (newSender : String)
  | drop (sender : String)
  | count
  | receive (receiver : String) (times : Nat)

/-- What a command replies. -/
inductive BusReply
  | done
  | flag (value : Bool)
  | count (value : Nat)
  | received (values : List (Received Event))

namespace BusSession

/-- The sender of a new session. -/
def firstSender : String := "b"

def create (capacity : Nat) : BusSession :=
  { bus := Broadcast.create capacity, senders := [firstSender] }

/-- Drop a sender; with the last one the bus is closed. -/
def dropSender (session : BusSession) (sender : String) : BusSession :=
  let senders := session.senders.erase sender
  { bus := if senders.isEmpty then session.bus.close else session.bus, senders }

def receiveTimes (receiver : String) :
    (times : Nat) → Broadcast String Event → List (Received Event) × Broadcast String Event
  | 0, bus => ([], bus)
  | times + 1, bus =>
      let (first, after) := bus.receive receiver
      let (others, last) := receiveTimes receiver times after
      (first :: others, last)

def command (session : BusSession) : BusCommand → BusReply × BusSession
  | .subscribe receiver => (.done, { session with bus := session.bus.subscribe receiver })
  | .unsubscribe receiver =>
      (.flag (session.bus.position? receiver).isSome,
        { session with bus := session.bus.unsubscribe receiver })
  | .publish sender events =>
      if session.senders.contains sender then
        (.done, { session with bus := events.foldl Broadcast.publish session.bus })
      else (.done, session)
  | .clone newSender =>
      (.done, { session with senders := newSender :: session.senders.erase newSender })
  | .drop sender =>
      if session.senders.contains sender then (.flag true, session.dropSender sender)
      else (.flag false, session)
  | .count => (.count session.bus.receiverCount, session)
  | .receive receiver times =>
      let (received, bus) := receiveTimes receiver times session.bus
      (.received received, { session with bus })

def commands (session : BusSession) : List BusCommand → List BusReply
  | [] => []
  | first :: rest =>
      let (reply, after) := session.command first
      reply :: commands after rest

end BusSession
end Simulation
end PubSub
