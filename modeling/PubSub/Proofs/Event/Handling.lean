import PubSub.Proofs.Event.Change

/-!
# Every accepted event is handled

A subscriber handles the events that its queue took, in the order in which they were emitted,
each once: at any time those it has handled, the one it is handling and those that wait are
together the ones that were accepted. What the hub reports is what its records owe: one loss for
each subscriber that missed an event, unless the event is itself the report of a loss, and one
report for each abnormal end.
-/

namespace PubSub
namespace Hub

namespace Record

/-- The event that a record gives to the subscriber at a place. -/
def accepted (place : Nat) : Record → List Event
  | .offered event refusals => if refusals[place]? = some none then [event] else []
  | _ => []

/-- The event that the subscriber at a place is done with, well or not. -/
def handled (place : Nat) : Record → List Event
  | .finished other event => if other = place then [event] else []
  | .panicked other event _ => if other = place then [event] else []
  | _ => []

/-- The report that a record tells of. -/
def reports : Record → List Event
  | .reported event => [event]
  | _ => []

/-- The reports that a record makes due, given the names of the subscribers. -/
def owed (names : List String) : Record → List Event
  | .offered event refusals =>
      if event.isOverflow then []
      else (names.zip refusals).filterMap fun pair =>
        pair.2.map (Event.subscriberOverflow pair.1)
  | .panicked place _ info => names[place]?.toList.map (Event.subscriberPanicked · info)
  | _ => []

variable (events : List Event) (place : Nat) (names : List String)

@[simp] theorem flatMap_accepted_reported :
    (events.map reported).flatMap (accepted place) = [] := by
  simp [List.flatMap_map, accepted]

@[simp] theorem flatMap_handled_reported :
    (events.map reported).flatMap (handled place) = [] := by
  simp [List.flatMap_map, handled]

@[simp] theorem flatMap_owed_reported : (events.map reported).flatMap (owed names) = [] := by
  simp [List.flatMap_map, owed]

@[simp] theorem flatMap_reports_reported : (events.map reported).flatMap reports = events := by
  simp [List.flatMap_map, reports]

end Record

namespace Session

/-- The events that the subscriber at a place was given, oldest first. -/
def accepted (session : Session) (place : Nat) : List Event :=
  session.records.flatMap (Record.accepted place)

def handled (session : Session) (place : Nat) : List Event :=
  session.records.flatMap (Record.handled place)

/-- The event that the subscriber at a place is handling, if there is one. -/
def handling (session : Session) (place : Nat) : List Event :=
  match session.workers[place]? with
  | some (some (.handling event)) => [event]
  | _ => []

def reported (session : Session) : List Event := session.records.flatMap Record.reports

/-- What subscribers have handled and what has been reported, at any time. -/
structure Accounts (session : Session) (names : List String) : Prop where
  named : session.hub.queues.map SubscriberQueue.name = names
  accepted : ∀ place queue, session.hub.queues[place]? = some queue →
    session.handled place ++ session.handling place ++ queue.events = session.accepted place
  reported : session.reported = session.records.flatMap (Record.owed names)

variable {before : Session} {names : List String} {event : Event}

/-- An emission owes the losses that it reports. -/
theorem losses_eq_owed (named : before.hub.queues.map SubscriberQueue.name = names) :
    before.hub.losses event = (Record.offered event (before.hub.refusals event)).owed names := by
  subst named
  simp only [losses, Record.owed, refusals, List.zip_map', List.filterMap_map]
  rfl

/-- After an emission all accounts are right. -/
theorem Accounts.offer (accounts : before.Accounts names) (event : Event) :
    (before.offer event).Accounts names := by
  refine ⟨?named, fun place queue here => ?accepted, ?reported⟩
  case named =>
    rw [← accounts.named, Session.offer, queues_announce]
    simp only [note, List.map_map]
    refine List.map_congr_left fun queue _ => ?_
    cases refusal : queue.refusal? event with
    | none => simp [SubscriberQueue.offered_of_refusal?_eq_none refusal]
    | some reason => simp [SubscriberQueue.offered_of_refusal?_eq_some refusal]
  case accepted =>
    rw [Session.offer, queues_announce] at here
    simp only [note, List.getElem?_map, Option.map_eq_some_iff] at here
    obtain ⟨old, here, rfl⟩ := here
    have balance := accounts.accepted place old here
    have decided : (before.hub.refusals event)[place]? = some (old.refusal? event) := by
      simp [refusals, here]
    simp only [Session.accepted, Session.handled, handling] at balance
    cases refusal : old.refusal? event with
    | none =>
        simp [Session.offer, Session.accepted, Session.handled, handling, note, Record.accepted,
          Record.handled, decided, refusal, SubscriberQueue.offered_of_refusal?_eq_none refusal,
          ← balance]
    | some reason =>
        simp [Session.offer, Session.accepted, Session.handled, handling, note, Record.accepted,
          Record.handled, decided, refusal, SubscriberQueue.offered_of_refusal?_eq_some refusal,
          ← balance]
  case reported =>
    have balance := accounts.reported
    simp only [Session.reported] at balance
    simp [Session.offer, Session.reported, note, balance, losses_eq_owed accounts.named,
      Record.reports]

variable {after : Session}

/-- The subscriber at a place is done with what it was handling, if it was handling anything; the
others go on as they were. -/
theorem Accounts.done
    {place other : Nat}
    {later : Option Worker}
    {happened : List Record}
    {queue : SubscriberQueue}
    (accounts : before.Accounts names)
    (idle : later = none ∨ later = some .idle)
    (inside : place < before.workers.length)
    (workers : after.workers = before.workers.set place later)
    (records : after.records = before.records ++ happened)
    (unaccepted : happened.flatMap (Record.accepted other) = [])
    (handled : happened.flatMap (Record.handled other) =
      if place = other then before.handling place else [])
    (here : before.hub.queues[other]? = some queue) :
    after.handled other ++ after.handling other ++ queue.events = after.accepted other := by
  have balance := accounts.accepted other queue here
  rw [Session.handled, Session.accepted, records, List.flatMap_append, List.flatMap_append,
    unaccepted, handled, List.append_nil, ← Session.handled, ← Session.accepted, ← balance]
  by_cases same : place = other
  · subst same
    have nothing : after.handling place = [] := by
      rw [handling, workers, List.getElem?_set_self inside]
      rcases idle with rfl | rfl <;> rfl
    simp [nothing]
  · have unchanged : after.handling other = before.handling other := by
      rw [handling, handling, workers, List.getElem?_set_ne same]
    simp [same, unchanged]

/-- Whatever happens, all accounts stay right. -/
theorem Accounts.change
    (accounts : before.Accounts names)
    (change : Change before after) : after.Accounts names := by
  have balance := accounts.accepted
  have reports := accounts.reported
  simp only [Session.accepted, Session.handled, handling, Session.reported] at balance reports
  cases change with
  | emitted event => exact accounts.offer event
  | @heard event bus received =>
      have moved : ({ before with hub := { before.hub with bus } } : Session).Accounts names :=
        ⟨accounts.named, accounts.accepted, accounts.reported⟩
      exact moved.offer event
  | @began place queue event rest idle here next =>
      refine ⟨?named, fun other later present => ?accepted, ?reported⟩
      case named =>
        have unnamed : (before.hub.queues.map SubscriberQueue.name)[place]? = some queue.name := by
          simp [here]
        obtain ⟨inside, same⟩ := List.getElem?_eq_some_iff.mp unnamed
        simp only [note, setQueue, List.map_set, ← same, List.set_getElem_self]
        exact accounts.named
      case accepted =>
        simp only [note, setQueue] at present
        by_cases same : place = other
        · subst same
          obtain ⟨inside, -⟩ := List.getElem?_eq_some_iff.mp here
          rw [List.getElem?_set_self inside, Option.some.injEq] at present
          have known := balance place queue here
          simp only [idle, next] at known
          simp [Session.accepted, Session.handled, handling, note, Record.accepted, Record.handled,
            List.getElem?_set_self (List.getElem?_eq_some_iff.mp idle).1, ← present, ← known]
        · rw [List.getElem?_set_ne same] at present
          simpa [Session.accepted, Session.handled, handling, note, Record.accepted,
            Record.handled, same] using balance other later present
      case reported => simpa [Session.reported, note, Record.reports, Record.owed] using reports
  | @finished place event busy =>
      refine ⟨accounts.named, fun other queue present => ?accepted, ?reported⟩
      case accepted =>
        refine accounts.done (.inr rfl) (List.getElem?_eq_some_iff.mp busy).1 rfl rfl rfl ?_ present
        simp [Record.handled, handling, busy]
      case reported => simpa [Session.reported, note, Record.reports, Record.owed] using reports
  | @panicked place queue event busy here info =>
      refine ⟨by simpa [note] using accounts.named, fun other later present => ?accepted, ?reported⟩
      case accepted =>
        rw [queues_announce] at present
        refine accounts.done (.inr rfl) (List.getElem?_eq_some_iff.mp busy).1 rfl
          (List.append_assoc ..) ?unaccepted ?handled present
        case unaccepted => simp [Record.accepted]
        case handled => simp [Record.handled, handling, busy]
      case reported =>
        have name : names[place]? = some queue.name := by
          simp [← accounts.named, here]
        simp [Session.reported, note, Record.reports, Record.owed, reports, name]
  | @workerEnded place queue idle here closed empty =>
      refine ⟨accounts.named, fun other later present => ?accepted, accounts.reported⟩
      case accepted =>
        refine accounts.done (.inl rfl) (List.getElem?_eq_some_iff.mp idle).1 rfl
          (List.append_nil _).symm rfl ?_ present
        simp [handling, idle]
  | closedQueues known =>
      refine ⟨?named, fun other later present => ?accepted, accounts.reported⟩
      case named =>
        rw [← accounts.named, closeQueues, List.map_map]
        rfl
      case accepted =>
        simp only [closeQueues, List.getElem?_map, Option.map_eq_some_iff] at present
        obtain ⟨queue, here, rfl⟩ := present
        exact accounts.accepted other queue here
  | _ =>
      refine ⟨by simpa [note, publish, endListener] using accounts.named, ?_, ?_⟩
      · simpa [Session.accepted, Session.handled, handling, note, publish, endListener,
          Record.accepted, Record.handled] using balance
      · simpa [Session.reported, note, Record.reports, Record.owed] using reports

theorem accounts_start (busCapacity : Nat) (subscribers : List (String × Nat)) :
    (start busCapacity subscribers).Accounts (subscribers.map Prod.fst) := by
  have queues : (start busCapacity subscribers).hub.queues =
      subscribers.map fun subscriber => SubscriberQueue.create subscriber.1 subscriber.2 := by
    simp only [start, create]
    split <;> simp_all
  refine ⟨?named, fun place queue here => ?accepted, rfl⟩
  case named =>
    rw [queues, List.map_map]
    rfl
  case accepted =>
    rw [queues, List.getElem?_map, Option.map_eq_some_iff] at here
    obtain ⟨subscriber, here, rfl⟩ := here
    have idle : (start busCapacity subscribers).workers[place]? = some (some .idle) :=
      List.getElem?_map.trans (by rw [here]; rfl)
    rw [handling, idle]
    rfl

end Session
end Hub
end PubSub
