import Mathlib.Data.List.Induction
import PubSub.Proofs.Event.Session

/-!
# What a move does to a session of a hub

`Change` lists everything that can happen to a session, with all that is known when it happens.
Every move of a session with a worker for each queue is a change, so whatever survives every
change holds after every list of moves.

An emission is two things at once: every queue that takes the event has it, and every loss that
is to be reported is on the bus.
-/

namespace PubSub

/-- A receiver that finds nothing leaves the broadcast as it was. -/
theorem Broadcast.eq_of_receive_nothing
    {Key Item : Type}
    [DecidableEq Key]
    {channel after : Broadcast Key Item}
    {key : Key}
    {result : Received Item}
    (received : channel.receive key = (result, after))
    (nothing : result = .empty ∨ result = .closed) :
    after = channel := by
  unfold receive at received
  split at received
  · exact (Prod.mk.inj received).2.symm
  · split at received
    · obtain ⟨rfl, -⟩ := Prod.mk.inj received
      simp at nothing
    · split at received
      · obtain ⟨rfl, -⟩ := Prod.mk.inj received
        simp at nothing
      · exact (Prod.mk.inj received).2.symm

namespace SubscriberQueue

/-- A queue after it was offered an event. -/
def offered (queue : SubscriberQueue) (event : Event) : SubscriberQueue :=
  match queue.offer event with
  | .ok taken => taken
  | .error _ => queue

/-- The report of a loss, if a queue refuses an event. -/
def loss? (queue : SubscriberQueue) (event : Event) : Option Event :=
  (queue.refusal? event).map (Event.subscriberOverflow queue.name)

variable {queue : SubscriberQueue} {event : Event}

theorem eq_of_offer_eq_ok
    {after : SubscriberQueue}
    (taken : queue.offer event = .ok after) :
    after = { queue with events := queue.events ++ [event] } := by
  unfold offer at taken
  split at taken
  · contradiction
  · split at taken
    · contradiction
    · exact (Except.ok.inj taken).symm

/-- A queue that does not refuse an event takes it at its end. -/
theorem offered_of_refusal?_eq_none (taken : queue.refusal? event = none) :
    queue.offered event = { queue with events := queue.events ++ [event] } := by
  unfold refusal? at taken
  cases answer : queue.offer event with
  | ok after => simpa [offered, answer] using eq_of_offer_eq_ok answer
  | error reason => simp [answer] at taken

/-- A queue that refuses an event stays as it is. -/
theorem offered_of_refusal?_eq_some
    {reason : String}
    (refused : queue.refusal? event = some reason) :
    queue.offered event = queue := by
  unfold refusal? at refused
  cases answer : queue.offer event with
  | ok after => simp [answer] at refused
  | error reason => simp [offered, answer]

/-- A closed queue refuses every event. -/
theorem refusal?_of_closed (closed : queue.isOpen = false) :
    queue.refusal? event = some "closed" := by
  simp [refusal?, offer, closed]

end SubscriberQueue

namespace Hub

/-- The losses that are reported when an event is emitted. -/
def losses (hub : Hub) (event : Event) : List Event :=
  if event.isOverflow then [] else hub.queues.filterMap (SubscriberQueue.loss? · event)

theorem offerAll_eq (event : Event) (queues : List SubscriberQueue) :
    offerAll event queues =
      (queues.map (SubscriberQueue.offered · event),
        queues.map (SubscriberQueue.loss? · event)) := by
  induction queues with
  | nil => rfl
  | cons queue rest hypothesis =>
      rw [offerAll, hypothesis]
      cases answer : queue.offer event <;>
        simp [SubscriberQueue.offered, SubscriberQueue.loss?, SubscriberQueue.refusal?, answer]

namespace Session

/-- Reports are put on the bus. -/
def announce (session : Session) (events : List Event) : Session :=
  { session with hub := events.foldl publish session.hub }.note (events.map .reported)

/-- An event is offered to the subscribers and the losses are reported. -/
def offer (session : Session) (event : Event) : Session :=
  ({ session with
      hub :=
        { session.hub with
          queues := session.hub.queues.map (SubscriberQueue.offered · event) } }.note
    [.offered event (session.hub.refusals event)]).announce (session.hub.losses event)

theorem announce_nil (session : Session) : session.announce [] = session := by
  simp [announce, note]

theorem announce_cons (session : Session) (event : Event) (events : List Event) :
    session.announce (event :: events) = (session.perform (.publish event)).announce events := by
  simp [announce, note, perform]

/-- Performing a report publishes the losses, unless they are to be dropped silently. -/
theorem foldl_perform_report
    (session : Session)
    (quiet : Bool)
    (place : Nat)
    (lost : List (Option Event)) :
    (report quiet place lost).foldl perform session =
      session.announce (if quiet then [] else lost.filterMap id) := by
  induction lost generalizing session place with
  | nil => simp [report, announce_nil]
  | cons first rest hypothesis =>
      cases first with
      | none => simpa [report, perform] using hypothesis session (place + 1)
      | some loss =>
          cases quiet with
          | true => simpa [report] using hypothesis session (place + 1)
          | false =>
              have rest_eq := hypothesis (session.perform (.publish loss)) (place + 1)
              simpa [report, announce_cons] using rest_eq

theorem foldl_perform_signal (session : Session) (signals : List HubSignal) :
    (signals.map HubEffect.signal).foldl perform session = session := by
  induction signals with
  | nil => rfl
  | cons first rest hypothesis => exact hypothesis

theorem emit_eq_offer (session : Session) (event : Event) :
    session.emit event = session.offer event := by
  simp only [emit, Hub.emit, offerAll_eq, foldl_perform_report, offer, losses, List.filterMap_map]
  rfl

/-! ## What reports leave alone -/

variable (session : Session) (events : List Event)

@[simp] theorem queues_announce : (session.announce events).hub.queues = session.hub.queues := by
  induction events generalizing session with
  | nil => rfl
  | cons event events hypothesis => rw [announce_cons, hypothesis]; rfl

@[simp] theorem endedWorkers_announce :
    (session.announce events).hub.endedWorkers = session.hub.endedWorkers := by
  induction events generalizing session with
  | nil => rfl
  | cons event events hypothesis => rw [announce_cons, hypothesis]; rfl

@[simp] theorem workers_announce : (session.announce events).workers = session.workers := rfl

@[simp] theorem endings_announce : (session.announce events).endings = session.endings := rfl

@[simp] theorem records_announce :
    (session.announce events).records = session.records ++ events.map .reported := rfl

end Session

/-! ## Everything that can happen -/

/-- A worker for each queue. -/
def Session.IsAligned (session : Session) : Prop :=
  session.workers.length = session.hub.queues.length

/-- Everything that can happen to a session. -/
inductive Change (session : Session) : Session → Prop
  | published (event : Event) :
      Change session ({ session with hub := session.hub.publish event }.note [.published event])
  | emitted (event : Event) : Change session (session.offer event)
  | heard
      {event : Event}
      {bus : Broadcast BusReader Event}
      (received : session.hub.bus.receive .listener = (.item event, bus)) :
      Change session ({ session with hub := { session.hub with bus } }.offer event)
  | missed
      {count : Nat}
      {bus : Broadcast BusReader Event}
      (received : session.hub.bus.receive .listener = (.lagged count, bus)) :
      Change session ({ session with hub := { session.hub with bus } }.note [.missed count])
  | left
      (nothing : (session.hub.bus.receive .listener).1 = .closed ∨
        (session.hub.bus.receive .listener).1 = .empty ∧ session.hub.isStopped = true) :
      Change session { session with hub := session.hub.endListener, isListening := false }
  | began
      {place : Nat}
      {queue : SubscriberQueue}
      {event : Event}
      {rest : List Event}
      (idle : session.workers[place]? = some (some .idle))
      (here : session.hub.queues[place]? = some queue)
      (next : queue.events = event :: rest) :
      Change session
        ({ session with
            hub := session.hub.setQueue place { queue with events := rest }
            workers := session.workers.set place (some (.handling event)) }.note
          [.began place event])
  | finished
      {place : Nat}
      {event : Event}
      (handling : session.workers[place]? = some (some (.handling event))) :
      Change session
        ({ session with workers := session.workers.set place (some .idle) }.note
          [.finished place event])
  | panicked
      {place : Nat}
      {queue : SubscriberQueue}
      {event : Event}
      (handling : session.workers[place]? = some (some (.handling event)))
      (here : session.hub.queues[place]? = some queue)
      (info : String) :
      Change session
        (({ session with workers := session.workers.set place (some .idle) }.note
          [.panicked place event info]).announce [Event.subscriberPanicked queue.name info])
  | workerEnded
      {place : Nat}
      {queue : SubscriberQueue}
      (idle : session.workers[place]? = some (some .idle))
      (here : session.hub.queues[place]? = some queue)
      (closed : queue.isOpen = false)
      (empty : queue.events = []) :
      Change session
        { session with
          hub := session.hub.endWorker place
          workers := session.workers.set place none }
  | called {ending : Ending} (fresh : ending = .begin ∨ ending = .closingQueues) :
      Change session { session with endings := ending :: session.endings }
  | stopped
      {others : List Ending}
      (known : others ⊆ session.endings)
      (first : session.hub.isListening = true) :
      Change session
        { session with
          hub := { session.hub with isListening := false, isStopped := true }
          endings := .stopping :: others }
  | passed {others : List Ending} (known : others ⊆ session.endings) :
      Change session ({ session with endings := others }.note [.passed])
  | waited
      {others : List Ending}
      (known : others ⊆ session.endings)
      (ended : session.hub.listenerEnded = true) :
      Change session { session with endings := .closingQueues :: others }
  | closedQueues {others : List Ending} (known : others ⊆ session.endings) :
      Change session
        { session with hub := session.hub.closeQueues, endings := .draining 0 :: others }
  | sawWorkerEnd
      {others : List Ending}
      {place : Nat}
      (known : others ⊆ session.endings)
      (member : .draining place ∈ session.endings)
      (ended : place ∈ session.hub.endedWorkers) :
      Change session { session with endings := .draining (place + 1) :: others }
  | drained
      {others : List Ending}
      {place : Nat}
      (known : others ⊆ session.endings)
      (member : .draining place ∈ session.endings)
      (all : session.hub.queues.length ≤ place) :
      Change session ({ session with endings := others }.note [.drained])
  | idled {others : List Ending} (known : others ⊆ session.endings) :
      Change session { session with endings := others }

/-! ## What a turn does -/

variable {session : Session}

/-- What a turn of the listener makes of a session, and whether it does anything. -/
inductive Listens (session : Session) : Bool → Session → Prop
  | heard
      {event : Event}
      {bus : Broadcast BusReader Event}
      (received : session.hub.bus.receive .listener = (.item event, bus)) :
      Listens session true ({ session with hub := { session.hub with bus } }.offer event)
  | missed
      {count : Nat}
      {bus : Broadcast BusReader Event}
      (received : session.hub.bus.receive .listener = (.lagged count, bus)) :
      Listens session true ({ session with hub := { session.hub with bus } }.note [.missed count])
  | left
      (nothing : (session.hub.bus.receive .listener).1 = .closed ∨
        (session.hub.bus.receive .listener).1 = .empty ∧ session.hub.isStopped = true) :
      Listens session true { session with hub := session.hub.endListener, isListening := false }
  | waited
      (nothing : (session.hub.bus.receive .listener).1 = .empty)
      (unstopped : session.hub.isStopped = false) :
      Listens session false session

/-- What a turn of a worker makes of a session, given what its subscriber has come to, and whether
it does anything. -/
inductive Works (session : Session) (place : Nat) : Worker → Answer Unit → Bool → Session → Prop
  | began
      {queue : SubscriberQueue}
      {event : Event}
      {rest : List Event}
      {answer : Answer Unit}
      (here : session.hub.queues[place]? = some queue)
      (next : queue.events = event :: rest) :
      Works session place .idle answer true
        ({ session with
            hub := session.hub.setQueue place { queue with events := rest }
            workers := session.workers.set place (some (.handling event)) }.note
          [.began place event])
  | ended
      {queue : SubscriberQueue}
      {answer : Answer Unit}
      (here : session.hub.queues[place]? = some queue)
      (closed : queue.isOpen = false)
      (empty : queue.events = []) :
      Works session place .idle answer true
        { session with
          hub := session.hub.endWorker place
          workers := session.workers.set place none }
  | waited
      {queue : SubscriberQueue}
      {answer : Answer Unit}
      (here : session.hub.queues[place]? = some queue)
      (opened : queue.isOpen = true)
      (empty : queue.events = []) :
      Works session place .idle answer false session
  | handling {event : Event} : Works session place (.handling event) .running false session
  | finished {event : Event} {result : Unit} :
      Works session place (.handling event) (.returned result) true
        ({ session with workers := session.workers.set place (some .idle) }.note
          [.finished place event])
  | panicked
      {queue : SubscriberQueue}
      {event : Event}
      {info : String}
      (here : session.hub.queues[place]? = some queue) :
      Works session place (.handling event) (.panicked info) true
        (({ session with workers := session.workers.set place (some .idle) }.note
          [.panicked place event info]).announce [Event.subscriberPanicked queue.name info])

/-- What a turn of a closing makes of a session with other closings under way, and whether it does
anything. -/
inductive Finishes (session : Session) (others : List Ending) : Ending → Bool → Session → Prop
  | stopped (first : session.hub.isListening = true) :
      Finishes session others .begin true
        { session with
          hub := { session.hub with isListening := false, isStopped := true }
          endings := .stopping :: others }
  | passed (later : session.hub.isListening = false) :
      Finishes session others .begin true ({ session with endings := others }.note [.passed])
  | sawListenerEnd (ended : session.hub.listenerEnded = true) :
      Finishes session others .stopping true { session with endings := .closingQueues :: others }
  | stopping (unended : session.hub.listenerEnded = false) :
      Finishes session others .stopping false { session with endings := .stopping :: others }
  | closedQueues :
      Finishes session others .closingQueues true
        { session with hub := session.hub.closeQueues, endings := .draining 0 :: others }
  | sawWorkerEnd {place : Nat} (ended : place ∈ session.hub.endedWorkers) :
      Finishes session others (.draining place) true
        { session with endings := .draining (place + 1) :: others }
  | draining
      {place : Nat}
      (inside : place < session.hub.queues.length)
      (unended : place ∉ session.hub.endedWorkers) :
      Finishes session others (.draining place) false
        { session with endings := .draining place :: others }
  | drained {place : Nat} (all : session.hub.queues.length ≤ place) :
      Finishes session others (.draining place) true
        ({ session with endings := others }.note [.drained])

/-- A turn of a listener that is at work. -/
theorem listens (listening : session.isListening = true) :
    Listens session (session.acts .listen) session.listen := by
  obtain ⟨hub, workers, isListening, endings, records⟩ := session
  obtain rfl : isListening = true := listening
  rcases received : hub.bus.receive .listener with ⟨result, bus⟩
  cases result with
  | item event =>
      have heard := @Listens.heard ⟨hub, workers, true, endings, records⟩ event bus received
      rw [← Session.emit_eq_offer] at heard
      simp only [Session.acts, Session.listen, listenerStep, received, hearRecords]
      exact heard
  | lagged count =>
      simp only [Session.acts, Session.listen, listenerStep, received, hearRecords]
      exact @Listens.missed ⟨hub, workers, true, endings, records⟩ count bus received
  | closed =>
      obtain rfl := Broadcast.eq_of_receive_nothing received (.inr rfl)
      simp only [Session.acts, Session.listen, listenerStep, received, hearRecords, Session.note,
        List.append_nil]
      exact .left (.inl (by rw [received]))
  | empty =>
      obtain rfl := Broadcast.eq_of_receive_nothing received (.inl rfl)
      simp only [Session.acts, Session.listen, listenerStep, received, hearRecords, Session.note,
        List.append_nil]
      by_cases stopped : hub.isStopped = true
      · rw [if_pos stopped]
        exact .left (.inr ⟨by rw [received], stopped⟩)
      · rw [if_neg stopped]
        exact .waited (by rw [received]) (Bool.eq_false_iff.mpr stopped)

/-- A worker that stays as it is. -/
theorem Session.set_of_getElem?
    {place : Nat}
    {worker : Option Worker}
    (present : session.workers[place]? = some worker) :
    session.workers.set place worker = session.workers := by
  obtain ⟨inside, rfl⟩ := List.getElem?_eq_some_iff.mp present
  exact List.set_getElem_self inside

/-- A turn of the worker at a place. -/
theorem works
    {place : Nat}
    {worker : Worker}
    (aligned : session.IsAligned)
    (present : session.workers[place]? = some (some worker))
    (answer : Answer Unit) :
    Works session place worker answer (session.acts (.work place answer))
      (session.work place answer worker) := by
  have same := Session.set_of_getElem? present
  obtain ⟨queue, here⟩ : ∃ queue, session.hub.queues[place]? = some queue := by
    have inside := (List.getElem?_eq_some_iff.mp present).1
    exact ⟨_, List.getElem?_eq_getElem (aligned ▸ inside)⟩
  cases worker with
  | idle =>
      rcases events : queue.events with _ | ⟨event, rest⟩
      · cases opened : queue.isOpen with
        | false =>
            have finished : queue.isFinished = true := by
              simp [SubscriberQueue.isFinished, opened, events]
            simpa [Session.acts, present, Session.work, Worker.step, here, SubscriberQueue.take?,
              events, finished, answerRecords, Session.note, Session.performWorker,
              Session.perform, Next.tasks, Next.isWaiting]
              using Works.ended here opened events
        | true =>
            have unfinished : queue.isFinished = false := by
              simp [SubscriberQueue.isFinished, opened]
            simpa [Session.acts, present, Session.work, Worker.step, here, SubscriberQueue.take?,
              events, unfinished, answerRecords, Session.note, Next.tasks, Next.isWaiting, same]
              using Works.waited here opened events
      · simpa [Session.acts, present, Session.work, Worker.step, here, SubscriberQueue.take?,
          events, answerRecords, Session.note, Session.performWorker, Next.tasks, Next.isWaiting]
          using Works.began here events
  | handling event =>
      cases answer with
      | running =>
          simpa [Session.acts, present, Session.work, Worker.step, answerRecords, Session.note,
            Next.tasks, Next.isWaiting, same] using Works.handling
      | returned result =>
          simpa [Session.acts, present, Session.work, Worker.step, answerRecords, Session.note,
            Next.tasks, Next.isWaiting] using Works.finished
      | panicked info =>
          simpa [Session.acts, present, Session.work, Worker.step, answerRecords, Session.note,
            Session.performWorker, Session.perform, Session.announce, Next.tasks, Next.isWaiting,
            here] using Works.panicked here

/-- A turn of a closing among others. -/
theorem finishes (others : List Ending) (ending : Ending) :
    Finishes session others ending (!(ending.step session.hub).next.isWaiting)
      (session.finish others ending) := by
  cases ending with
  | begin =>
      cases first : session.hub.isListening with
      | true =>
          simpa [Session.finish, Ending.step, stop, first, Session.perform, Session.note,
            endRecords, Next.tasks, Next.isWaiting] using Finishes.stopped first
      | false =>
          simpa [Session.finish, Ending.step, stop, first, Session.note, endRecords, Next.tasks,
            Next.isWaiting] using Finishes.passed first
  | stopping =>
      cases ended : session.hub.listenerEnded with
      | true =>
          simpa [Session.finish, Ending.step, ended, Session.note, endRecords, Next.tasks,
            Next.isWaiting] using Finishes.sawListenerEnd ended
      | false =>
          simpa [Session.finish, Ending.step, ended, Session.note, endRecords, Next.tasks,
            Next.isWaiting] using Finishes.stopping ended
  | closingQueues =>
      have signals := Session.foldl_perform_signal
        { session with hub := session.hub.closeQueues, endings := .draining 0 :: others }
        ((List.range session.hub.queues.length).map .queued)
      rw [List.map_map] at signals
      have closed := @Finishes.closedQueues session others
      rw [← signals] at closed
      simpa [Session.finish, Ending.step, Session.note, endRecords, Next.tasks, Next.isWaiting,
        Function.comp_def] using closed
  | draining place =>
      by_cases all : session.hub.queues.length ≤ place
      · simpa [Session.finish, Ending.step, all, Session.note, endRecords, Next.tasks,
          Next.isWaiting] using Finishes.drained all
      · by_cases ended : place ∈ session.hub.endedWorkers
        · simpa [Session.finish, Ending.step, all, ended, Session.note, endRecords, Next.tasks,
            Next.isWaiting] using Finishes.sawWorkerEnd ended
        · simpa [Session.finish, Ending.step, all, ended, Session.note, endRecords, Next.tasks,
            Next.isWaiting] using Finishes.draining (Nat.lt_of_not_le all) ended

/-! ## Moves are changes -/

theorem Change.refl (session : Session) : Change session session :=
  .idled (List.Subset.refl session.endings)

theorem Listens.change
    {acting : Bool}
    {after : Session}
    (turn : Listens session acting after) : Change session after := by
  cases turn with
  | heard received => exact .heard received
  | missed received => exact .missed received
  | left nothing => exact .left nothing
  | waited => exact .refl session

theorem Works.change
    {place : Nat}
    {worker : Worker}
    {answer : Answer Unit}
    {acting : Bool}
    {after : Session}
    (turn : Works session place worker answer acting after)
    (present : session.workers[place]? = some (some worker)) : Change session after := by
  cases turn with
  | began here next => exact .began present here next
  | ended here closed empty => exact .workerEnded present here closed empty
  | finished => exact .finished present
  | panicked here => exact .panicked present here _
  | waited | handling => exact .refl session

theorem Finishes.change
    {others : List Ending}
    {ending : Ending}
    {acting : Bool}
    {after : Session}
    (turn : Finishes session others ending acting after)
    (member : ending ∈ session.endings)
    (known : others ⊆ session.endings) : Change session after := by
  cases turn with
  | stopped first => exact .stopped known first
  | passed => exact .passed known
  | sawListenerEnd ended => exact .waited known ended
  | closedQueues => exact .closedQueues known
  | sawWorkerEnd ended => exact .sawWorkerEnd known member ended
  | drained all => exact .drained known member all
  | stopping | draining => exact .idled (List.cons_subset.mpr ⟨member, known⟩)

/-- Every move is a change. -/
theorem change_step (aligned : session.IsAligned) (move : Move) :
    Change session (session.step move) := by
  cases move with
  | publish event => exact .published event
  | emit event =>
      rw [Session.step, Session.emit_eq_offer]
      exact .emitted event
  | listen =>
      rw [Session.step]
      split
      case isTrue listening => exact (listens listening).change
      case isFalse => exact .refl session
  | work place answer =>
      rw [Session.step]
      split
      case h_1 worker present => exact (works aligned present answer).change present
      case h_2 => exact .refl session
  | close => exact .called (.inl rfl)
  | shutdown => exact .called (.inr rfl)
  | finish index =>
      rw [Session.step]
      split
      case h_1 ending here =>
        exact (finishes _ ending).change (List.mem_of_getElem? here) List.eraseIdx_subset
      case h_2 => exact .refl session

/-- A change leaves a worker for each queue. -/
theorem Change.isAligned {before after : Session} (change : Change before after)
    (aligned : before.IsAligned) : after.IsAligned := by
  unfold Session.IsAligned at aligned ⊢
  cases change <;>
    simpa [Session.offer, Session.note, setQueue, endWorker, closeQueues, publish, endListener]
      using aligned

theorem isAligned_start (busCapacity : Nat) (subscribers : List (String × Nat)) :
    (Session.start busCapacity subscribers).IsAligned := by
  simp only [Session.IsAligned, Session.start, create, List.length_map]
  split <;> simp_all

/-- What holds of a new session and survives every change holds after every list of moves. -/
theorem sessionOf_induction
    {busCapacity : Nat}
    {subscribers : List (String × Nat)}
    {motive : Session → Prop}
    (start : motive (Session.start busCapacity subscribers))
    (change : ∀ {before after}, before.IsAligned → Change before after → motive before →
      motive after)
    (moves : List Move) : motive (sessionOf busCapacity subscribers moves) := by
  have both : (sessionOf busCapacity subscribers moves).IsAligned ∧
      motive (sessionOf busCapacity subscribers moves) := by
    induction moves using List.reverseRecOn with
    | nil => exact ⟨isAligned_start busCapacity subscribers, start⟩
    | append_singleton moves move hypothesis =>
        rw [sessionOf_append_singleton]
        have step := change_step hypothesis.1 move
        exact ⟨step.isAligned hypothesis.1, change hypothesis.1 step hypothesis.2⟩
  exact both.2

end Hub
end PubSub
