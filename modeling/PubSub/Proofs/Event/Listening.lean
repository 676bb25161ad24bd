import PubSub.Proofs.Event.Backlog
import PubSub.Proofs.Event.Change

/-!
# The listener of a bus

The listener is the only one who reads the bus of a hub for the subscribers. Once it has left, the
bus has no receiver, and what is published is heard by nobody.
-/

namespace PubSub
namespace Hub

/-- Who listens is the only receiver of the bus. -/
structure Session.Hears (session : Session) : Prop where
  listening : session.isListening = true → ∃ position, session.hub.bus.Serves .listener position
  left : session.isListening = false → session.hub.bus.receivers = []

namespace Session.Hears

variable {before after : Session}

theorem perform (hears : before.Hears) (event : Event) :
    (before.perform (.publish event)).Hears where
  listening := fun listening =>
    let ⟨position, serves⟩ := hears.listening listening
    ⟨position, serves.publish⟩
  left := fun left => by
    have none := hears.left left
    simp [Session.perform, note, Hub.publish, Broadcast.publish, none]

theorem announce (hears : before.Hears) (events : List Event) : (before.announce events).Hears := by
  induction events generalizing before with
  | nil => rwa [announce_nil]
  | cons event events hypothesis =>
      rw [announce_cons]
      exact hypothesis (hears.perform event)

theorem offer (hears : before.Hears) (event : Event) : (before.offer event).Hears := by
  have kept : ({ before with
      hub :=
        { before.hub with
          queues := before.hub.queues.map (SubscriberQueue.offered · event) } }.note
      [.offered event (before.hub.refusals event)]).Hears := ⟨hears.listening, hears.left⟩
  exact kept.announce _

/-- Something is received only while somebody listens. -/
theorem of_receive
    {result : Received Event}
    {bus : Broadcast BusReader Event}
    (hears : before.Hears)
    (received : before.hub.bus.receive .listener = (result, bus))
    (open' : result ≠ .closed) :
    before.isListening = true ∧ ∃ position, before.hub.bus.Serves .listener position := by
  cases listening : before.isListening with
  | true => exact ⟨rfl, hears.listening listening⟩
  | false =>
      have none := hears.left listening
      simp [Broadcast.receive, Broadcast.position?, none] at received
      exact absurd received.1.symm open'

/-- Whatever happens, who listens is the only receiver. -/
theorem change (hears : before.Hears) (change : Change before after) : after.Hears := by
  cases change with
  | published event => exact ⟨(hears.perform event).listening, (hears.perform event).left⟩
  | emitted event => exact hears.offer event
  | @heard event bus received =>
      obtain ⟨listening, position, serves⟩ := hears.of_receive received (by simp)
      have moved : ({ before with hub := { before.hub with bus } } : Session).Hears :=
        ⟨fun _ => ⟨_, (serves.receive_item received).1⟩, fun left => by simp [listening] at left⟩
      exact moved.offer event
  | missed received =>
      obtain ⟨listening, position, serves⟩ := hears.of_receive received (by simp)
      exact ⟨fun _ => ⟨_, (serves.receive_lagged received).1⟩,
        fun left => by simp [note, listening] at left⟩
  | left nothing =>
      refine ⟨fun listening => by simp at listening, fun _ => ?_⟩
      cases listening : before.isListening with
      | true =>
          obtain ⟨position, serves⟩ := hears.listening listening
          exact serves.unsubscribe
      | false => simp [endListener, Broadcast.unsubscribe, hears.left listening]
  | @panicked place queue event handling here info =>
      have kept : ({ before with workers := before.workers.set place (some .idle) }.note
          [.panicked place event info]).Hears := ⟨hears.listening, hears.left⟩
      exact kept.announce _
  | _ => exact ⟨hears.listening, hears.left⟩

end Session.Hears

theorem Session.hears_start (busCapacity : Nat) (subscribers : List (String × Nat)) :
    (Session.start busCapacity subscribers).Hears := by
  simp only [Session.start, create]
  split
  · exact ⟨fun listening => by simp at listening, fun _ => rfl⟩
  · exact ⟨fun _ => ⟨0, Broadcast.Serves.create ..⟩, fun left => by simp at left⟩

variable {busCapacity : Nat} {subscribers : List (String × Nat)}

theorem hears (moves : List Move) : (sessionOf busCapacity subscribers moves).Hears :=
  sessionOf_induction (motive := Session.Hears) (Session.hears_start busCapacity subscribers)
    (fun _ change hears => hears.change change) moves

/-- A turn of the listener or of a worker that waits changes nothing. -/
theorem Session.step_of_acts_eq_false
    {session : Session}
    {move : Move}
    (aligned : session.IsAligned)
    (turn : move = .listen ∨ ∃ place answer, move = .work place answer)
    (waits : session.acts move = false) : session.step move = session := by
  rcases turn with rfl | ⟨place, answer, rfl⟩
  · rw [step]
    split
    next listening =>
      have turn := listens listening
      rw [waits] at turn
      generalize session.listen = after at turn
      cases turn
      rfl
    next => rfl
  · rw [step]
    split
    next worker present =>
      have turn := works aligned present answer
      rw [waits] at turn
      generalize session.work place answer worker = after at turn
      cases turn <;> rfl
    next => rfl

end Hub
end PubSub
