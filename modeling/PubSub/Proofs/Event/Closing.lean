import Mathlib.Data.List.Basic
import PubSub.Proofs.Event.Draining
import PubSub.Proofs.Event.Listening

/-!
# Closing a hub loses nothing

Only the listener emits events to the subscribers of a hub. As long as it misses nothing, what it
has heard and what waits on the bus are together what was published. It leaves only when nothing
waits, so whatever was published before a closing began has been heard by then; and the queues are
closed only after it has left, so none of it is refused because of the closing. The closing that
waits for the workers returns when they have handled all of it. Every other closing returns at once
and changes nothing.
-/

namespace PubSub
namespace SubscriberQueue

variable {queue : SubscriberQueue} {event : Event}

theorem isOpen_offered : (queue.offered event).isOpen = queue.isOpen := by
  cases refusal : queue.refusal? event with
  | none => rw [offered_of_refusal?_eq_none refusal]
  | some reason => rw [offered_of_refusal?_eq_some refusal]

/-- A queue that is open refuses an event only because it is full. -/
theorem reason_eq_full
    {reason : String}
    (opened : queue.isOpen = true)
    (refused : queue.refusal? event = some reason) : reason = "full" := by
  cases given : queue.offer event with
  | ok taken => simp [refusal?, given] at refused
  | error other =>
      obtain rfl : other = reason := by simpa [refusal?, given] using refused
      simp only [offer, opened] at given
      split at given
      next => contradiction
      next =>
        split at given
        next => exact (Except.error.inj given).symm
        next => contradiction

end SubscriberQueue

namespace Hub

/-- Whether a move is one of a hub that keeps its subscribers to itself: only the listener emits
events to them, and only a closing shuts them down. -/
def Move.isOwned : Move → Bool
  | .emit _ => false
  | .shutdown => false
  | _ => true

namespace Record

/-- The event that a record tells was put on the bus. -/
def bussed : Record → List Event
  | .published event => [event]
  | .reported event => [event]
  | _ => []

/-- The event that a record tells was taken off the bus. -/
def heard : Record → List Event
  | .offered event _ => [event]
  | _ => []

end Record

namespace Session

/-- The events that were put on the bus, oldest first. -/
def bussed (session : Session) : List Event := session.records.flatMap Record.bussed

/-- The events that the listener took off the bus, oldest first. -/
def heard (session : Session) : List Event := session.records.flatMap Record.heard

def HasMissed (session : Session) : Prop := ∃ count, .missed count ∈ session.records

theorem HasMissed.note {session : Session} (missed : session.HasMissed) (happened : List Record) :
    (session.note happened).HasMissed :=
  let ⟨count, member⟩ := missed
  ⟨count, List.mem_append_left _ member⟩

/-! ## The way of an event to the queues -/

/-- What the listener of a hub does with what is published, since certain events were. -/
structure Relays (since : List Event) (session : Session) : Prop where
  opened : session.hub.bus.isOpen = true
  takes : session.isListening = true → ∀ queue ∈ session.hub.queues, queue.isOpen = true
  ended : session.hub.listenerEnded = true → session.isListening = false
  closing : .closingQueues ∈ session.endings → session.isListening = false
  refused : ∀ event refusals, .offered event refusals ∈ session.records →
    refusals.length = session.hub.queues.length ∧
      ∀ reason, some reason ∈ refusals → reason = "full"
  listening : session.isListening = true →
    session.HasMissed ∨ session.hub.bus.isBehind .listener = true ∨
      session.bussed = session.heard ++ session.hub.bus.backlog .listener
  known : session.HasMissed ∨ session.heard <+: session.bussed
  past : since <+: session.bussed
  left : session.isListening = false → session.HasMissed ∨ since <+: session.heard

namespace Relays

variable {since : List Event} {before after : Session}

/-- What touches neither the bus nor the listener, and opens and closes no queue. -/
theorem aside
    {happened : List Record}
    (relays : before.Relays since)
    (bus : after.hub.bus = before.hub.bus)
    (listening : after.isListening = before.isListening)
    (ended : after.hub.listenerEnded = before.hub.listenerEnded)
    (queues : after.hub.queues.map SubscriberQueue.isOpen =
      before.hub.queues.map SubscriberQueue.isOpen)
    (closing : .closingQueues ∈ after.endings →
      .closingQueues ∈ before.endings ∨ before.hub.listenerEnded = true)
    (records : after.records = before.records ++ happened)
    (silent : ∀ record ∈ happened, record.bussed = [] ∧ record.heard = []) :
    after.Relays since := by
  have missed (missed : before.HasMissed) : after.HasMissed :=
    let ⟨count, member⟩ := missed
    ⟨count, records ▸ List.mem_append_left _ member⟩
  have bussed : after.bussed = before.bussed := by
    rw [Session.bussed, records, List.flatMap_append,
      List.flatMap_eq_nil_iff.mpr fun record member => (silent record member).1, List.append_nil]
    rfl
  have heard : after.heard = before.heard := by
    rw [Session.heard, records, List.flatMap_append,
      List.flatMap_eq_nil_iff.mpr fun record member => (silent record member).2, List.append_nil]
    rfl
  refine ⟨?opened, fun hears queue member => ?takes, ?ended, fun member => ?closing,
    fun event refusals member => ?refused, ?listening, ?known, ?past, ?left⟩
  case opened => exact bus ▸ relays.opened
  case takes =>
    have here : queue.isOpen ∈ after.hub.queues.map SubscriberQueue.isOpen :=
      List.mem_map_of_mem member
    rw [queues] at here
    obtain ⟨old, present, same⟩ := List.mem_map.mp here
    exact same ▸ relays.takes (listening ▸ hears) old present
  case ended => exact fun gone => listening ▸ relays.ended (ended ▸ gone)
  case closing =>
    rw [listening]
    exact (closing member).elim relays.closing relays.ended
  case refused =>
    have lengths : after.hub.queues.length = before.hub.queues.length := by
      simpa using congrArg List.length queues
    rw [records] at member
    rcases List.mem_append.mp member with old | new
    · exact lengths ▸ relays.refused event refusals old
    · exact absurd (silent _ new).2 (List.cons_ne_nil _ _)
  case listening =>
    rw [listening, bus, bussed, heard]
    exact fun hears => (relays.listening hears).imp_left missed
  case known => exact bussed ▸ heard ▸ relays.known.imp_left missed
  case past => exact bussed ▸ relays.past
  case left =>
    rw [listening, heard]
    exact fun gone => (relays.left gone).imp_left missed

/-- An event is put on the bus. -/
theorem put
    {event : Event}
    {happened : Record}
    (relays : before.Relays since)
    (hears : before.Hears)
    (news : happened.bussed = [event])
    (unheard : happened.heard = []) :
    ({ before with hub := before.hub.publish event }.note [happened]).Relays since := by
  have bussed : ({ before with hub := before.hub.publish event }.note [happened]).bussed =
      before.bussed ++ [event] := by
    simp [Session.bussed, note, news]
  have heard : ({ before with hub := before.hub.publish event }.note [happened]).heard =
      before.heard := by
    simp [Session.heard, note, unheard]
  refine ⟨by simpa [note, Hub.publish] using relays.opened, relays.takes, relays.ended,
    relays.closing, fun emitted refusals member => ?refused, fun listening => ?listening, ?known,
    ?past, fun gone => ?left⟩
  case refused =>
    rcases List.mem_append.mp member with old | new
    · exact relays.refused emitted refusals old
    · obtain rfl := List.mem_singleton.mp new
      exact absurd unheard (List.cons_ne_nil _ _)
  case listening =>
    obtain ⟨position, serves⟩ := hears.listening listening
    rw [bussed, heard]
    rcases relays.listening listening with missed | behind | abreast
    · exact .inl (missed.note _)
    · rcases @serves.backlog_publish _ _ _ _ _ _ event with ⟨-, same⟩ | ⟨-, -, late⟩
      · exact .inr (.inl (same.trans behind))
      · exact .inr (.inl late)
    · rcases @serves.backlog_publish _ _ _ _ _ _ event with ⟨grown, -⟩ | ⟨-, -, late⟩
      · refine .inr (.inr ?_)
        rw [abreast, List.append_assoc]
        exact congrArg _ grown.symm
      · exact .inr (.inl late)
  case known =>
    rw [bussed, heard]
    exact relays.known.imp (·.note _) (·.trans (List.prefix_append ..))
  case past =>
    rw [bussed]
    exact relays.past.trans (List.prefix_append ..)
  case left =>
    rw [heard]
    exact (relays.left gone).imp_left (·.note _)

theorem announce
    (relays : before.Relays since)
    (hears : before.Hears)
    (events : List Event) : (before.announce events).Relays since := by
  induction events generalizing before with
  | nil => rwa [announce_nil]
  | cons event events hypothesis =>
      rw [announce_cons]
      exact hypothesis (relays.put hears rfl rfl) (hears.perform event)

/-! ### Turns -/

/-- The listener takes an event off the bus, and every queue takes it or is full. -/
theorem hear
    {event : Event}
    {bus : Broadcast BusReader Event}
    (relays : before.Relays since)
    (hears : before.Hears)
    (listening : before.isListening = true)
    (received : before.hub.bus.receive .listener = (.item event, bus)) :
    (({ before with hub := { before.hub with bus } } : Session).offer event).Relays since := by
  obtain ⟨position, serves⟩ := hears.listening listening
  obtain ⟨moved, backlog, abreast, -⟩ := serves.receive_item received
  have opened : bus.isOpen = before.hub.bus.isOpen := by
    rw [← before.hub.bus.isOpen_receive .listener, received]
  have caughtUp : before.HasMissed ∨
      before.bussed = before.heard ++ [event] ++ bus.backlog .listener := by
    simpa [abreast, backlog] using relays.listening listening
  have refused (refusals : List (Option String)) (new : refusals = before.hub.refusals event) :
      refusals.length = before.hub.queues.length ∧
        ∀ reason, some reason ∈ refusals → reason = "full" := by
    subst new
    refine ⟨List.length_map _, fun reason member => ?_⟩
    obtain ⟨queue, present, refusal⟩ := List.mem_map.mp member
    exact SubscriberQueue.reason_eq_full (relays.takes listening queue present) refusal
  let taken : Session := { before with
    hub :=
      { before.hub with bus, queues := before.hub.queues.map (SubscriberQueue.offered · event) } }
  have bussed :
      (taken.note [.offered event (before.hub.refusals event)]).bussed = before.bussed := by
    simp [Session.bussed, taken, note, Record.bussed]
  have heard : (taken.note [.offered event (before.hub.refusals event)]).heard =
      before.heard ++ [event] := by
    simp [Session.heard, taken, note, Record.heard]
  have kept : (taken.note [.offered event (before.hub.refusals event)]).Relays since := by
    refine ⟨opened.trans relays.opened, fun _ queue member => ?takes, relays.ended,
      relays.closing, fun emitted refusals member => ?refused, fun _ => ?listening, ?known,
      ?past, fun gone => ?left⟩
    case takes =>
      obtain ⟨old, present, rfl⟩ := List.mem_map.mp member
      exact SubscriberQueue.isOpen_offered.trans (relays.takes listening old present)
    case refused =>
      have lengths : taken.hub.queues.length = before.hub.queues.length := List.length_map _
      rw [show (taken.note _).hub.queues.length = _ from lengths]
      rcases List.mem_append.mp member with old | new
      · exact relays.refused emitted refusals old
      · exact refused refusals (Record.offered.inj (List.mem_singleton.mp new)).2
    case listening =>
      rw [bussed, heard]
      exact caughtUp.imp (·.note _) .inr
    case known =>
      rw [bussed, heard]
      rcases caughtUp with missed | whole
      · exact .inl (missed.note _)
      · exact .inr (whole ▸ List.prefix_append _ _)
    case past => exact bussed ▸ relays.past
    case left =>
      have same : before.isListening = false := gone
      simp [listening] at same
  exact kept.announce ⟨fun _ => ⟨_, moved⟩, fun gone => by simp [note, taken, listening] at gone⟩ _

theorem listens
    {acting : Bool}
    (relays : before.Relays since)
    (hears : before.Hears)
    (listening : before.isListening = true)
    (turn : Listens before acting after) : after.Relays since := by
  obtain ⟨position, serves⟩ := hears.listening listening
  cases turn with
  | heard received => exact relays.hear hears listening received
  | @missed count bus received =>
      have missed :
          ({ before with hub := { before.hub with bus } }.note [.missed count]).HasMissed :=
        ⟨count, List.mem_append_right _ (.head _)⟩
      have opened : bus.isOpen = before.hub.bus.isOpen := by
        rw [← before.hub.bus.isOpen_receive .listener, received]
      refine ⟨opened.trans relays.opened, relays.takes, relays.ended, relays.closing,
        fun event refusals member => ?_, fun _ => .inl missed, .inl missed, ?_,
        fun _ => .inl missed⟩
      · exact relays.refused event refusals (by simpa [note] using member)
      · simpa [Session.bussed, note, Record.bussed] using relays.past
  | left nothing =>
      have nothing : (before.hub.bus.receive .listener).1 = .empty ∨
          (before.hub.bus.receive .listener).1 = .closed := nothing.symm.imp_left And.left
      obtain ⟨backlog, abreast⟩ := serves.backlog_of_receive_nothing nothing
      refine ⟨relays.opened, fun gone => by contradiction, fun _ => rfl, fun _ => rfl,
        relays.refused, fun gone => by contradiction, relays.known, relays.past, fun _ => ?_⟩
      have whole : before.HasMissed ∨ before.bussed = before.heard := by
        simpa [backlog, abreast] using relays.listening listening
      rcases whole with missed | whole
      · exact .inl missed
      · exact .inr (whole ▸ relays.past)
  | waited => exact relays

theorem works
    {place : Nat}
    {worker : Worker}
    {answer : Answer Unit}
    {acting : Bool}
    (relays : before.Relays since)
    (hears : before.Hears)
    (turn : Works before place worker answer acting after) : after.Relays since := by
  cases turn with
  | @began queue event rest _ here next =>
      have opened : (before.hub.queues.map SubscriberQueue.isOpen)[place]? = some queue.isOpen := by
        simp [here]
      refine relays.aside rfl rfl rfl ?_ .inl rfl (by simp [Record.bussed, Record.heard])
      obtain ⟨inside, same⟩ := List.getElem?_eq_some_iff.mp opened
      simp only [note, setQueue, List.map_set, ← same, List.set_getElem_self]
  | ended => exact relays.aside rfl rfl rfl rfl .inl (List.append_nil _).symm (by simp)
  | finished => exact relays.aside rfl rfl rfl rfl .inl rfl (by simp [Record.bussed, Record.heard])
  | @panicked queue event info here =>
      have kept : ({ before with workers := before.workers.set place (some .idle) }.note
          [.panicked place event info]).Relays since :=
        relays.aside rfl rfl rfl rfl .inl rfl (by simp [Record.bussed, Record.heard])
      exact kept.announce ⟨hears.listening, hears.left⟩ _
  | waited | handling => exact relays

theorem finishes
    {others : List Ending}
    {ending : Ending}
    {acting : Bool}
    (relays : before.Relays since)
    (member : ending ∈ before.endings)
    (known : others ⊆ before.endings)
    (turn : Finishes before others ending acting after) : after.Relays since := by
  cases turn with
  | closedQueues =>
      have gone : before.isListening = false := relays.closing member
      refine ⟨relays.opened, fun listening => ?_, relays.ended, fun inside => ?_,
        fun event refusals inside => ?_, relays.listening, relays.known, relays.past, relays.left⟩
      · simp [gone] at listening
      · exact gone
      · simpa [closeQueues] using relays.refused event refusals inside
  | sawListenerEnd ended =>
      exact relays.aside rfl rfl rfl rfl (fun _ => .inr ended) (List.append_nil _).symm (by simp)
  | passed =>
      exact relays.aside rfl rfl rfl rfl (fun inside => .inl (known inside)) rfl
        (by simp [Record.bussed, Record.heard])
  | drained =>
      exact relays.aside rfl rfl rfl rfl (fun inside => .inl (known inside)) rfl
        (by simp [Record.bussed, Record.heard])
  | stopped | stopping | sawWorkerEnd | draining =>
      refine relays.aside rfl rfl rfl rfl (fun inside => .inl (known ?_)) (List.append_nil _).symm
        (by simp)
      simpa using inside

/-- Every move of a hub that keeps its subscribers to itself. -/
theorem step
    {move : Move}
    (relays : before.Relays since)
    (hears : before.Hears)
    (aligned : before.IsAligned)
    (owned : move.isOwned = true) : (before.step move).Relays since := by
  cases move with
  | publish event => exact relays.put hears rfl rfl
  | emit event | shutdown => contradiction
  | listen =>
      rw [Session.step]
      split
      next listening => exact relays.listens hears listening (Hub.listens listening)
      next => exact relays
  | work place answer =>
      rw [Session.step]
      split
      next worker present => exact relays.works hears (Hub.works aligned present answer)
      next => exact relays
  | close =>
      exact relays.aside rfl rfl rfl rfl (fun inside => .inl (by simpa [Session.step] using inside))
        (List.append_nil _).symm (by simp)
  | finish index =>
      rw [Session.step]
      split
      next ending here =>
        exact relays.finishes (List.mem_of_getElem? here) List.eraseIdx_subset
          (Hub.finishes _ ending)
      next => exact relays

end Relays

theorem relays_start (busCapacity : Nat) (subscribers : List (String × Nat)) :
    (start busCapacity subscribers).Relays [] := by
  simp only [start, create]
  split
  · exact ⟨rfl, fun listening => by contradiction, fun _ => rfl, fun member => by contradiction,
      fun _ _ member => by contradiction, fun listening => by contradiction,
      .inr (List.prefix_refl _), List.nil_prefix, fun _ => .inr List.nil_prefix⟩
  · have serves : ((Broadcast.create busCapacity : Broadcast BusReader Event).subscribe
        .listener).Serves .listener 0 := .create ..
    refine ⟨rfl, fun _ queue member => ?_, fun ended => by contradiction,
      fun member => by contradiction, fun _ _ member => by contradiction, fun _ => .inr (.inr ?_),
      .inr (List.prefix_refl _), List.nil_prefix, fun gone => by contradiction⟩
    · obtain ⟨subscriber, -, rfl⟩ := List.mem_map.mp member
      rfl
    · exact serves.backlog_eq.symm

/-! ## Where the tasks of a hub stand -/

/-- What is known of the listener and of the closings of a hub. -/
structure Attends (session : Session) : Prop where
  opened : session.hub.bus.isOpen = true
  /-- The listener leaves only when it was asked to; without subscribers there is none. -/
  left : session.isListening = false →
    session.hub.isStopped = true ∧ session.hub.listenerEnded = true ∨
      session.hub.queues = [] ∧ session.hub.isStopped = false ∧ session.hub.isListening = false
  stopped : session.hub.isStopped = true → session.hub.isListening = false
  stopping : .stopping ∈ session.endings → session.hub.isStopped = true
  gone : ∀ place : Nat, session.workers[place]? = some none → place ∈ session.hub.endedWorkers
  draining : ∀ place, .draining place ∈ session.endings →
    ∀ queue ∈ session.hub.queues, queue.isOpen = false

variable {before after : Session}

theorem Attends.announce (attends : before.Attends) (events : List Event) :
    (before.announce events).Attends := by
  induction events generalizing before with
  | nil => rwa [announce_nil]
  | cons event events hypothesis =>
      rw [announce_cons]
      exact hypothesis ⟨by simpa [perform, note, Hub.publish] using attends.opened, attends.left,
        attends.stopped, attends.stopping, attends.gone, attends.draining⟩

theorem Attends.offer (attends : before.Attends) (event : Event) :
    (before.offer event).Attends := by
  have kept : ({ before with
      hub :=
        { before.hub with
          queues := before.hub.queues.map (SubscriberQueue.offered · event) } }.note
      [.offered event (before.hub.refusals event)]).Attends := by
    refine ⟨attends.opened, fun gone => ?_, attends.stopped, attends.stopping, attends.gone,
      fun place member queue present => ?_⟩
    · simpa [note] using attends.left gone
    · obtain ⟨old, known, rfl⟩ := List.mem_map.mp present
      exact SubscriberQueue.isOpen_offered.trans (attends.draining place member old known)
  exact kept.announce _

theorem Attends.change
    (attends : before.Attends)
    (hears : before.Hears)
    (change : Change before after) : after.Attends := by
  have kept {workers : List (Option Worker)} {happened : List Record}
      (gone : ∀ place : Nat, workers[place]? = some none → place ∈ before.hub.endedWorkers) :
      ({ before with workers }.note happened).Attends :=
    ⟨attends.opened, attends.left, attends.stopped, attends.stopping, gone, attends.draining⟩
  have others {endings : List Ending} {happened : List Record} (known : endings ⊆ before.endings) :
      ({ before with endings }.note happened).Attends :=
    ⟨attends.opened, attends.left, attends.stopped, fun member => attends.stopping (known member),
      attends.gone, fun place member => attends.draining place (known member)⟩
  cases change with
  | published event =>
      exact ⟨by simpa [note, Hub.publish] using attends.opened, attends.left,
        attends.stopped, attends.stopping, attends.gone, attends.draining⟩
  | emitted event => exact attends.offer event
  | @heard event bus received =>
      have opened : bus.isOpen = before.hub.bus.isOpen := by
        rw [← before.hub.bus.isOpen_receive .listener, received]
      have moved : ({ before with hub := { before.hub with bus } } : Session).Attends :=
        ⟨opened.trans attends.opened, attends.left, attends.stopped, attends.stopping,
          attends.gone, attends.draining⟩
      exact moved.offer event
  | @missed count bus received =>
      have opened : bus.isOpen = before.hub.bus.isOpen := by
        rw [← before.hub.bus.isOpen_receive .listener, received]
      exact ⟨opened.trans attends.opened, attends.left, attends.stopped, attends.stopping,
        attends.gone, attends.draining⟩
  | left nothing =>
      refine ⟨attends.opened, fun _ => ?_, attends.stopped, attends.stopping, attends.gone,
        attends.draining⟩
      cases listening : before.isListening with
      | false => exact (attends.left listening).imp_left fun known => ⟨known.1, rfl⟩
      | true =>
          obtain ⟨position, serves⟩ := hears.listening listening
          rcases nothing with closed | ⟨-, stopped⟩
          · exact absurd closed (serves.receive_ne_closed attends.opened)
          · exact .inl ⟨stopped, rfl⟩
  | @began place queue event rest idle here next =>
      refine ⟨attends.opened, fun gone => ?_, attends.stopped, attends.stopping,
        fun other none => attends.gone other ((getElem?_set_eq_none_iff idle).mp none),
        fun other member later present => ?_⟩
      · simpa [note, setQueue] using attends.left gone
      · rcases List.mem_or_eq_of_mem_set present with old | rfl
        · exact attends.draining other member later old
        · exact attends.draining other member queue (List.mem_of_getElem? here)
  | finished handling =>
      exact kept fun place none => attends.gone place ((getElem?_set_eq_none_iff handling).mp none)
  | @panicked place queue event handling here info =>
      exact (kept fun place none =>
        attends.gone place ((getElem?_set_eq_none_iff handling).mp none)).announce _
  | @workerEnded place queue idle here closed empty =>
      refine ⟨attends.opened, attends.left, attends.stopped, attends.stopping, fun other none => ?_,
        attends.draining⟩
      by_cases same : place = other
      · exact same ▸ .head _
      · rw [List.getElem?_set_ne same] at none
        exact .tail _ (attends.gone other none)
  | called fresh =>
      refine ⟨attends.opened, attends.left, attends.stopped, fun member => attends.stopping ?_,
        attends.gone, fun place member => attends.draining place ?_⟩
      all_goals
        refine (List.mem_cons.mp member).resolve_left fun same => ?_
        subst same
        simp at fresh
  | stopped known first =>
      refine ⟨attends.opened, fun gone => ?_, fun _ => rfl, fun _ => rfl, attends.gone,
        fun place member => ?_⟩
      · rcases attends.left gone with ⟨-, ended⟩ | ⟨-, -, unlistening⟩
        · exact .inl ⟨rfl, ended⟩
        · simp [first] at unlistening
      · refine attends.draining place (known ?_)
        simpa using member
  | waited known ended =>
      refine ⟨attends.opened, attends.left, attends.stopped,
        fun member => attends.stopping (known ?_), attends.gone,
        fun place member => attends.draining place (known ?_)⟩
      all_goals simpa using member
  | closedQueues known =>
      refine ⟨attends.opened, fun gone => ?_, attends.stopped,
        fun member => attends.stopping (known ?_), attends.gone,
        fun place member queue present => ?_⟩
      · simpa [closeQueues] using attends.left gone
      · simpa using member
      · obtain ⟨old, -, rfl⟩ := List.mem_map.mp present
        rfl
  | @sawWorkerEnd endings place known member ended =>
      refine ⟨attends.opened, attends.left, attends.stopped,
        fun inside => attends.stopping (known ?_), attends.gone, fun other inside => ?_⟩
      · simpa using inside
      · exact attends.draining place member
  | passed known | drained known => exact others known
  | idled known => simpa [note] using @others _ [] known

theorem attends_start (busCapacity : Nat) (subscribers : List (String × Nat)) :
    (start busCapacity subscribers).Attends := by
  have alive (place : Nat) : (start busCapacity subscribers).workers[place]? ≠ some none := by
    intro gone
    obtain ⟨subscriber, -, idle⟩ := Option.map_eq_some_iff.mp (List.getElem?_map.symm.trans gone)
    cases idle
  refine ⟨?opened, fun gone => ?left, ?stopped, fun member => by contradiction,
    fun place gone => absurd gone (alive place), fun _ member => by contradiction⟩
  all_goals
    simp only [start, create] at *
    split
  case left.isTrue => exact .inr ⟨rfl, rfl, rfl⟩
  case left.isFalse some => simp [some] at gone
  all_goals first | rfl | exact fun _ => rfl | exact fun stopped => by contradiction

end Session

/-! ## After the end -/

section Ended

variable {before after : Session} {place : Nat}

/-- A worker that has ended handles nothing any more. -/
theorem Change.handled_of_ended
    (change : Change before after)
    (ended : before.workers[place]? = some none) :
    after.workers[place]? = some none ∧ after.handled place = before.handled place := by
  have other {here : Nat} {worker : Worker} (present : before.workers[here]? = some (some worker)) :
      here ≠ place := by
    rintro rfl
    simp [ended] at present
  cases change with
  | began idle here next =>
      exact ⟨(Session.getElem?_set_eq_none_iff idle).mpr ended,
        by simp [Session.handled, Session.note, Record.handled]⟩
  | finished handling =>
      exact ⟨(Session.getElem?_set_eq_none_iff handling).mpr ended,
        by simp [Session.handled, Session.note, Record.handled, other handling]⟩
  | panicked handling here info =>
      exact ⟨(Session.getElem?_set_eq_none_iff handling).mpr ended,
        by simp [Session.handled, Session.note, Record.handled, other handling]⟩
  | workerEnded idle =>
      exact ⟨(List.getElem?_set_ne (other idle)).trans ended, rfl⟩
  | _ =>
      exact ⟨ended, by simp [Session.handled, Session.offer, Session.note, Record.handled]⟩

/-- A worker that has ended handles nothing in whatever follows. -/
theorem handled_run_of_ended
    (aligned : before.IsAligned)
    (ended : before.workers[place]? = some none)
    (moves : List Move) : (before.run moves).handled place = before.handled place := by
  induction moves generalizing before with
  | nil => rfl
  | cons move moves hypothesis =>
      have change := change_step aligned move
      obtain ⟨still, same⟩ := change.handled_of_ended ended
      exact (hypothesis (change.isAligned aligned) still).trans same

/-- A subscriber whose queue was never full is given everything that the listener hears. -/
theorem Session.Relays.accepted_eq_heard
    {since : List Event}
    (relays : before.Relays since)
    (inside : place < before.hub.queues.length)
    (room : ∀ event refusals, .offered event refusals ∈ before.records →
      refusals[place]? ≠ some (some "full")) : before.accepted place = before.heard := by
  refine List.flatMap_congr fun record member => ?_
  cases record with
  | offered event refusals =>
      obtain ⟨lengths, full⟩ := relays.refused event refusals member
      have here : refusals[place]? = some refusals[place] :=
        List.getElem?_eq_getElem (lengths ▸ inside)
      cases refusal : refusals[place] with
      | none => simp [Record.accepted, Record.heard, here, refusal]
      | some reason =>
          have known := full reason (refusal ▸ List.getElem_mem _)
          exact absurd (by rw [here, refusal, known]) (room event refusals member)
  | _ => rfl

end Ended

section Runs

variable {busCapacity : Nat} {subscribers : List (String × Nat)}

theorem attends (moves : List Move) : (sessionOf busCapacity subscribers moves).Attends := by
  have both : (sessionOf busCapacity subscribers moves).Hears ∧
      (sessionOf busCapacity subscribers moves).Attends :=
    sessionOf_induction (motive := fun session => session.Hears ∧ session.Attends)
      ⟨Session.hears_start busCapacity subscribers, Session.attends_start busCapacity subscribers⟩
      (fun _ change known => ⟨known.1.change change, known.2.change known.1 change⟩) moves
  exact both.2

theorem relays
    {since : List Event}
    {moves later : List Move}
    (relays : (sessionOf busCapacity subscribers moves).Relays since)
    (owned : ∀ move ∈ later, move.isOwned = true) :
    (sessionOf busCapacity subscribers (moves ++ later)).Relays since := by
  induction later using List.reverseRecOn with
  | nil => simpa using relays
  | append_singleton later move hypothesis =>
      rw [← List.append_assoc, sessionOf_append_singleton]
      have before := hypothesis fun other member => owned other (List.mem_append_left _ member)
      exact before.step (hears _) (isAligned _) (owned move (List.mem_append_right _ (.head _)))

/-- A closing that waits does so for the listener, for a worker, or for a subscriber. -/
theorem Session.Attends.goes_on
    {session : Session}
    (attends : session.Attends)
    (aligned : session.IsAligned)
    {ending : Ending}
    (member : ending ∈ session.endings) :
    (ending.step session.hub).next.isWaiting = false ∨ (∃ move, session.acts move = true) ∨
      ∃ place event, session.handling place = [event] := by
  have turn := @finishes session [] ending
  generalize acting : (!(ending.step session.hub).next.isWaiting) = acting at turn
  generalize session.finish [] ending = after at turn
  cases turn with
  | stopping unended =>
      refine .inr (.inl ⟨.listen, ?_⟩)
      have stopped := attends.stopping member
      have listening : session.isListening = true := by
        cases listening : session.isListening with
        | true => rfl
        | false => simpa [stopped, unended] using attends.left listening
      have turn := listens listening
      generalize session.acts .listen = acting, session.listen = after at turn
      cases turn with
      | waited nothing unstopped => simp [stopped] at unstopped
      | _ => rfl
  | @draining place inside unended =>
      obtain ⟨worker, present⟩ : ∃ worker, session.workers[place]? = some worker :=
        ⟨_, List.getElem?_eq_getElem (aligned ▸ inside)⟩
      match worker with
      | none => exact absurd (attends.gone place present) unended
      | some (.handling event) => exact .inr (.inr ⟨place, event, by simp [handling, present]⟩)
      | some .idle =>
          refine .inr (.inl ⟨.work place .running, ?_⟩)
          have turn := works aligned present .running
          generalize session.acts (.work place .running) = acting,
            session.work place .running .idle = after at turn
          cases turn with
          | @waited queue _ here opened empty =>
              have closed := attends.draining place member queue (List.mem_of_getElem? here)
              simp [opened] at closed
          | _ => rfl
  | _ => exact .inl (by simpa using acting)

/-- Whatever was published before a closing began, every subscriber whose queue was never full has
handled when that closing returns, each once and in the order of publication. Every further closing
returns at once and changes nothing, and a closing waits for nobody but a subscriber at work. -/
theorem close_loses_nothing
    (busCapacity : Nat)
    (subscribers : List (String × Nat))
    (earlier later : List Move)
    (owned : ∀ move ∈ earlier ++ later, move.isOwned = true)
    (unbegun : (sessionOf busCapacity subscribers earlier).hub.isStopped = false)
    (unmissed : ∀ count,
      .missed count ∉ (sessionOf busCapacity subscribers (earlier ++ later)).records) :
    let published := (sessionOf busCapacity subscribers earlier).bussed
    let session := sessionOf busCapacity subscribers (earlier ++ later)
    (.drained ∈ session.records → ∀ place < subscribers.length,
      (∀ event refusals, .offered event refusals ∈ session.records →
        refusals[place]? ≠ some (some "full")) →
      published <+: session.handled place ∧ session.handled place <+: session.bussed ∧
      ∀ last, (session.run last).handled place = session.handled place) ∧
    (session.hub.isStopped = true → ∀ index, session.endings[index]? = some .begin →
      session.step (.finish index) =
        { session with endings := session.endings.eraseIdx index }.note [.passed]) ∧
    ∀ ending ∈ session.endings,
      (ending.step session.hub).next.isWaiting = false ∨
      (∃ move, session.acts move = true) ∨
      ∃ place event, session.handling place = [event] := by
  intro published session
  have attending : session.Attends := attends _
  have first : (sessionOf busCapacity subscribers earlier).Relays [] :=
    @relays busCapacity subscribers [] [] earlier
      (Session.relays_start busCapacity subscribers)
      fun move member => owned move (List.mem_append_left _ member)
  refine ⟨fun drained place inside room => ?handled, fun stopped index here => ?passed,
    fun ending member => attending.goes_on (isAligned _) member⟩
  case handled =>
    have accounting : session.Accounts (subscribers.map Prod.fst) := accounts _
    have draining : session.Drains := drains _
    have lengths : session.hub.queues.length = subscribers.length := by
      simpa using congrArg List.length accounting.named
    obtain ⟨queue, here⟩ : ∃ queue, session.hub.queues[place]? = some queue :=
      ⟨_, List.getElem?_eq_getElem (lengths ▸ inside)⟩
    have none := draining.ended place (draining.drained drained place (lengths ▸ inside))
    have ended := draining.finished place queue here none
    have listening : (sessionOf busCapacity subscribers earlier).isListening = true := by
      cases listening : (sessionOf busCapacity subscribers earlier).isListening with
      | true => rfl
      | false =>
          rcases (attends earlier).left listening with ⟨stopped, -⟩ | ⟨nobody, -⟩
          · simp [unbegun] at stopped
          · have named := congrArg List.length (@accounts busCapacity subscribers earlier).named
            simp only [nobody, List.map_nil, List.length_nil, List.length_map] at named
            omega
    have relaying : session.Relays published :=
      relays
        { first with
          past := List.prefix_refl _
          left := fun gone => by simp [listening] at gone }
        fun move member => owned move (List.mem_append_right _ member)
    have gone : session.isListening = false := by
      cases listening : session.isListening with
      | false => rfl
      | true => simpa [ended.1] using relaying.takes listening queue (List.mem_of_getElem? here)
    have handled : session.handled place = session.heard := by
      have balance := accounting.accepted place queue here
      simp only [Session.handling, none, ended.2, List.append_nil] at balance
      exact balance.trans (relaying.accepted_eq_heard (lengths ▸ inside) room)
    have unmissed : ¬session.HasMissed := by
      rintro ⟨count, member⟩
      exact unmissed count member
    rw [handled]
    refine ⟨(relaying.left gone).resolve_left unmissed, relaying.known.resolve_left unmissed,
      fun last => ?_⟩
    rw [← handled]
    exact handled_run_of_ended (isAligned _) none last
  case passed =>
    have turn := @finishes session (session.endings.eraseIdx index) .begin
    have unlistening := attending.stopped stopped
    rw [Session.step, here]
    dsimp only
    generalize (!(Ending.begin.step session.hub).next.isWaiting) = acting,
      session.finish (session.endings.eraseIdx index) .begin = after at turn ⊢
    cases turn with
    | stopped listening => simp [unlistening] at listening
    | passed => rfl

end Runs

theorem close_loses_nothing_of_two :
    let first := Event.batchDispatched "t" "send" 1
    let second := Event.messageNotAcked "t"
    let earlier : List Move := [.publish first, .close]
    let later : List Move :=
      [.close, .finish 0, .finish 1, .publish second, .listen, .listen, .listen, .finish 0,
        .finish 0, .work 0 .running, .work 0 (.returned ()), .work 0 .running,
        .work 0 (.panicked "boom"), .work 0 .running, .finish 0, .finish 0]
    let session := sessionOf 4 [("x", 4)] (earlier ++ later)
    (∀ move ∈ earlier ++ later, move.isOwned = true) ∧
      (sessionOf 4 [("x", 4)] earlier).hub.isStopped = false ∧
      (∀ count, .missed count ∉ session.records) ∧ .drained ∈ session.records ∧
      (∀ event refusals, .offered event refusals ∈ session.records →
        refusals[0]? ≠ some (some "full")) ∧
      [first] <+: session.handled 0 ∧ session.handled 0 = [first, second] := by
  intro first second earlier later session
  have records : session.records =
      [.published first, .passed, .published second, .offered first [none],
        .offered second [none], .began 0 first, .finished 0 first, .began 0 second,
        .panicked 0 second "boom", .reported (.subscriberPanicked "x" "boom"), .drained] := by
    decide +kernel
  have owned : ∀ move ∈ earlier ++ later, move.isOwned = true := by decide
  have unbegun : (sessionOf 4 [("x", 4)] earlier).hub.isStopped = false := by decide +kernel
  have unmissed : ∀ count, .missed count ∉ session.records := by simp [records]
  have drained : .drained ∈ session.records := by simp [records]
  have room : ∀ event refusals, .offered event refusals ∈ session.records →
      refusals[0]? ≠ some (some "full") := by
    rw [records]
    simp only [List.mem_cons, reduceCtorEq, Record.offered.injEq, false_or, List.not_mem_nil,
      or_false]
    rintro event refusals (⟨-, rfl⟩ | ⟨-, rfl⟩) <;> decide
  obtain ⟨handled, -⟩ := close_loses_nothing 4 [("x", 4)] earlier later owned unbegun unmissed
  refine ⟨owned, unbegun, unmissed, drained, room, ?_, ?_⟩
  · exact (handled drained 0 (by decide) room).1
  · simp [Session.handled, records, Record.handled]

end Hub
end PubSub
