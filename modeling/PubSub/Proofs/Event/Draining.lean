import PubSub.Proofs.Event.Handling

/-!
# Every accepted event is handled before the end

A worker ends only when its queue is closed and empty, and a closing returns only when every
worker has ended. So when a closing has returned, every subscriber has handled exactly the events
that it was given. An abnormal end of a subscriber ends no worker.
-/

namespace PubSub
namespace Hub
namespace Session

/-- What is known of workers that have ended and of closings that wait for them. -/
structure Drains (session : Session) : Prop where
  finished : ∀ (place : Nat) (queue : SubscriberQueue), session.hub.queues[place]? = some queue →
    session.workers[place]? = some none → queue.isOpen = false ∧ queue.events = []
  ended : ∀ place ∈ session.hub.endedWorkers, session.workers[place]? = some none
  draining : ∀ reached, .draining reached ∈ session.endings →
    ∀ place < reached, place ∈ session.hub.endedWorkers
  drained : .drained ∈ session.records →
    ∀ place < session.hub.queues.length, place ∈ session.hub.endedWorkers

variable {before after : Session} {event : Event}

/-- An emission does not open a queue again. -/
theorem Drains.offer (drains : before.Drains) (event : Event) : (before.offer event).Drains := by
  refine ⟨fun place queue here none => ?finished, ?ended, ?draining, ?drained⟩
  case finished =>
    rw [Session.offer, queues_announce] at here
    simp only [note, List.getElem?_map, Option.map_eq_some_iff] at here
    obtain ⟨old, here, rfl⟩ := here
    have known := drains.finished place old here none
    rwa [SubscriberQueue.offered_of_refusal?_eq_some
      (SubscriberQueue.refusal?_of_closed known.1)]
  case ended => simpa [Session.offer, note] using drains.ended
  case draining => simpa [Session.offer, note] using drains.draining
  case drained => simpa [Session.offer, note] using drains.drained

/-- A worker that is at work has not ended, so what it does next changes no end. -/
theorem getElem?_set_eq_none_iff
    {place other : Nat}
    {worker later : Worker}
    (present : before.workers[place]? = some (some worker)) :
    (before.workers.set place (some later))[other]? = some none ↔
      before.workers[other]? = some none := by
  by_cases same : place = other
  · subst same
    simp [present, List.getElem?_set_self (List.getElem?_eq_some_iff.mp present).1]
  · rw [List.getElem?_set_ne same]

/-- A worker goes on with its work. -/
theorem Drains.work
    {place : Nat}
    {worker later : Worker}
    {happened : List Record}
    (drains : before.Drains)
    (present : before.workers[place]? = some (some worker))
    (undrained : .drained ∉ happened) :
    ({ before with
        workers := before.workers.set place (some later)
        records := before.records ++ happened } : Session).Drains := by
  refine ⟨fun other queue here none => ?_, fun other member => ?_, drains.draining, fun member => ?_⟩
  · exact drains.finished other queue here ((getElem?_set_eq_none_iff present).mp none)
  · exact (getElem?_set_eq_none_iff present).mpr (drains.ended other member)
  · exact drains.drained ((List.mem_append.mp member).resolve_right undrained)

/-- Whatever happens, workers end only when they have nothing left to do. -/
theorem Drains.change (drains : before.Drains) (change : Change before after) : after.Drains := by
  cases change with
  | emitted event => exact drains.offer event
  | @heard event bus received =>
      have moved : ({ before with hub := { before.hub with bus } } : Session).Drains :=
        ⟨drains.finished, drains.ended, drains.draining, drains.drained⟩
      exact moved.offer event
  | @began place queue event rest idle here next =>
      have worked : ({ before with
          workers := before.workers.set place (some (.handling event))
          records := before.records ++ [.began place event] } : Session).Drains :=
        drains.work idle (by simp)
      refine ⟨fun other later present none => ?_, worked.ended, worked.draining, ?_⟩
      · simp only [note, setQueue] at present
        by_cases same : place = other
        · -- The worker of this place has just begun, so it has not ended.
          subst same
          have absent := idle.symm.trans ((getElem?_set_eq_none_iff idle).mp none)
          contradiction
        · rw [List.getElem?_set_ne same] at present
          exact worked.finished other later present none
      · simpa [note, setQueue] using worked.drained
  | finished busy => exact drains.work busy (by simp)
  | @panicked place queue event busy here info =>
      have worked : ({ before with
          workers := before.workers.set place (some .idle)
          records := before.records ++ [.panicked place event info] } : Session).Drains :=
        drains.work busy (by simp)
      refine ⟨?_, ?_, worked.draining, ?_⟩
      · simpa [note] using worked.finished
      · simpa [note] using worked.ended
      · simpa [note] using worked.drained
  | @workerEnded place queue idle here closed empty =>
      have inside := (List.getElem?_eq_some_iff.mp idle).1
      refine ⟨fun other later present none => ?_, fun other member => ?_,
        fun reached inside other le => ?_, fun member other le => ?_⟩
      · by_cases same : place = other
        · subst same
          obtain rfl := Option.some.inj (here.symm.trans present)
          exact ⟨closed, empty⟩
        · rw [List.getElem?_set_ne same] at none
          exact drains.finished other later present none
      · rcases List.mem_cons.mp member with rfl | old
        · exact List.getElem?_set_self inside
        · by_cases same : place = other
          · subst same
            exact List.getElem?_set_self inside
          · rw [List.getElem?_set_ne same]
            exact drains.ended other old
      · exact .tail _ (drains.draining reached inside other le)
      · exact .tail _ (drains.drained member other le)
  | closedQueues known =>
      refine ⟨fun place later present none => ?_, drains.ended, fun reached member => ?_, ?_⟩
      · simp only [closeQueues, List.getElem?_map, Option.map_eq_some_iff] at present
        obtain ⟨queue, here, rfl⟩ := present
        exact ⟨rfl, (drains.finished place queue here none).2⟩
      · rcases List.mem_cons.mp member with same | old
        · cases same
          exact fun place le => absurd le (Nat.not_lt_zero place)
        · exact drains.draining reached (known old)
      · simpa [closeQueues] using drains.drained
  | @sawWorkerEnd others place known member ended =>
      refine ⟨drains.finished, drains.ended, fun reached inside other le => ?_, drains.drained⟩
      rcases List.mem_cons.mp inside with same | old
      · cases same
        rcases Nat.lt_succ_iff_lt_or_eq.mp le with before | rfl
        · exact drains.draining place member other before
        · exact ended
      · exact drains.draining reached (known old) other le
  | @drained others place known member all =>
      refine ⟨drains.finished, drains.ended, fun reached inside => ?_, fun _ other inside => ?_⟩
      · exact drains.draining reached (known inside)
      · exact drains.draining place member other (Nat.lt_of_lt_of_le inside all)
  | called fresh =>
      refine ⟨drains.finished, drains.ended, fun reached inside => ?_, drains.drained⟩
      rcases List.mem_cons.mp inside with rfl | old
      · simp at fresh
      · exact drains.draining reached old
  | stopped known | waited known =>
      refine ⟨drains.finished, drains.ended, fun reached inside => ?_, drains.drained⟩
      rcases List.mem_cons.mp inside with same | old
      · cases same
      · exact drains.draining reached (known old)
  | passed known | idled known =>
      refine ⟨drains.finished, drains.ended, fun reached inside => ?_, ?_⟩
      · exact drains.draining reached (known inside)
      · simpa [note] using drains.drained
  | published | missed | left =>
      exact ⟨drains.finished, drains.ended, drains.draining,
        by simpa [note, publish, endListener] using drains.drained⟩

theorem drains_start (busCapacity : Nat) (subscribers : List (String × Nat)) :
    (start busCapacity subscribers).Drains := by
  have ended : (start busCapacity subscribers).hub.endedWorkers = [] := by
    simp only [start, create]
    split <;> rfl
  refine ⟨fun place queue _ none => ?_, by simp [ended], by simp [start], by simp [start]⟩
  obtain ⟨subscriber, -, idle⟩ := Option.map_eq_some_iff.mp (List.getElem?_map.symm.trans none)
  cases idle

end Session

variable {busCapacity : Nat} {subscribers : List (String × Nat)}

theorem accounts (moves : List Move) :
    (sessionOf busCapacity subscribers moves).Accounts (subscribers.map Prod.fst) :=
  sessionOf_induction (motive := (Session.Accounts · (subscribers.map Prod.fst)))
    (Session.accounts_start busCapacity subscribers)
    (fun _ change accounts => accounts.change change) moves

theorem drains (moves : List Move) : (sessionOf busCapacity subscribers moves).Drains :=
  sessionOf_induction (motive := Session.Drains) (Session.drains_start busCapacity subscribers)
    (fun _ change drains => drains.change change) moves

theorem isAligned (moves : List Move) : (sessionOf busCapacity subscribers moves).IsAligned :=
  sessionOf_induction (motive := Session.IsAligned) (isAligned_start busCapacity subscribers)
    (fun aligned change _ => change.isAligned aligned) moves

/-- Every subscriber handles exactly the events that its queue accepted, each once and in the order
of emission, and the hub publishes what is owed for losses and abnormal ends. No abnormal end stops
a worker, and when a shutdown has returned every accepted event has been handled. -/
theorem handled_exactly_accepted
    (busCapacity : Nat)
    (subscribers : List (String × Nat))
    (moves : List Move) :
    let session := sessionOf busCapacity subscribers moves
    let names := subscribers.map Prod.fst
    session.hub.queues.map SubscriberQueue.name = names ∧
    session.reported = session.records.flatMap (Record.owed names) ∧
    ∀ (place : Nat) (queue : SubscriberQueue), session.hub.queues[place]? = some queue →
      session.handled place ++ session.handling place ++ queue.events = session.accepted place ∧
      (queue.isOpen = true ∨ queue.events ≠ [] →
        ∃ worker, session.workers[place]? = some (some worker)) ∧
      (∀ event rest answer, session.workers[place]? = some (some .idle) →
        queue.events = event :: rest →
        (session.step (.work place answer)).workers[place]? = some (some (.handling event))) ∧
      (∀ event answer, session.workers[place]? = some (some (.handling event)) →
        answer ≠ .running →
        (session.step (.work place answer)).workers[place]? = some (some .idle)) ∧
      (.drained ∈ session.records →
        session.handled place = session.accepted place ∧ queue.isOpen = false) := by
  intro session names
  have accounts : session.Accounts names := accounts moves
  have drains : session.Drains := drains moves
  refine ⟨accounts.named, accounts.reported, fun place queue here => ?_⟩
  have inside : place < session.hub.queues.length := (List.getElem?_eq_some_iff.mp here).1
  have attended : place < session.workers.length := (isAligned moves : session.IsAligned) ▸ inside
  refine ⟨accounts.accepted place queue here, fun alive => ?alive,
    fun event rest answer idle next => ?begins, fun event answer busy ended => ?survives,
    fun returned => ?drained⟩
  case alive =>
    cases present : session.workers[place] with
    | none =>
        have ended := drains.finished place queue here (by simp [attended, present])
        simp [ended] at alive
    | some worker => exact ⟨worker, by simp [attended, present]⟩
  case begins =>
    simp only [Session.step, idle, Session.work, Worker.step, here, SubscriberQueue.take?, next]
    exact List.getElem?_set_self attended
  case survives =>
    simp only [Session.step, busy, Session.work, Worker.step]
    cases answer with
    | running => contradiction
    | returned result => exact List.getElem?_set_self attended
    | panicked info => exact List.getElem?_set_self attended
  case drained =>
    have none := drains.ended place (drains.drained returned place inside)
    have ended := drains.finished place queue here none
    have balance := accounts.accepted place queue here
    simp only [Session.handling, none, ended.2, List.append_nil] at balance
    exact ⟨balance, ended.1⟩

end Hub
end PubSub
