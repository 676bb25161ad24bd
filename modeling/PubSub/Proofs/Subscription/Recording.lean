import PubSub.Proofs.Retry.Members
import PubSub.Proofs.Subscription.Turns

/-!
# What a move records

A turn adds few kinds of records to those that are there. `Records` lists them for every task,
with what is known about them when the turn is taken, and `Recorded` lists what any move adds. So
a view of the records that shows none of those of a task does not change when the task takes a
turn, and what is shown of others is known to be right.

A task that is at work after a move was at work before, has just called, was just started, or goes
on from a turn. `Arises` says so, and a property of all tasks is followed from move to move with
it.
-/

namespace PubSub
namespace Subscription

variable {Number : Type}

/-- What a task may record when it takes a turn. -/
inductive Records (session : Session Number) (finding : Finding) : Activity → Record → Prop
  -- Receivers
  | sized {context size : Nat} :
      Records session finding (.receiver context .asking) (.asked (.publish (sizeEvent size)))
  | starting {context number : Nat} {sizes : List Nat} :
      Records session finding (.receiver context .asking) (.asked (.startFetch number sizes))
  | popped {context : Nat} {receiver : Receiver} {envelope : Envelope} :
      Records session finding (.receiver context receiver) (.popped envelope)
  | received {context : Nat} {receiver : Receiver} {result : Outcome Message} :
      Records session finding (.receiver context receiver) (.received context result)
  -- Background receives
  | requested {number requested failures : Nat} {calls : Retry.Group Nat (List Envelope)}
      (live : session.subscription.backgroundEnded = false)
      (found : calls.members[calls.place]? = some (.running requested (.starting failures))) :
      Records session finding (.fetch (.calling number calls))
        (.asked (.receiveBatch number calls.place requested))
  | answered {number place : Nat} {calls : Retry.Group Nat (List Envelope)}
      (awaited : calls.awaited? = some place) :
      Records session finding (.fetch (.calling number calls))
        (.answered number place finding.fetched)
  | crashed {number : Nat} {calls : Retry.Group Nat (List Envelope)}
      (reason : (∃ place info, calls.awaited? = some place ∧ finding.fetched = .panicked info) ∨
        ∃ failures, session.subscription.retry.next? failures = none) :
      Records session finding (.fetch (.calling number calls)) (.crashed number)
  | fetched {number : Nat} {result : Outcome (List Envelope)} :
      Records session finding (.fetch (.storing number result)) (.fetched number result)
  -- Handlers of acknowledgments
  | dispatched {batch : List (Entry AckRequest)} :
      Records session finding (.handler (.announcing batch))
        (.asked (.publish (dispatchedEvent batch.length)))
  | sent {batch : List (Entry AckRequest)} {calls : Retry.Group AckCall Unit} {call : AckCall}
      {failures : Nat}
      (live : session.subscription.backgroundEnded = false)
      (found : calls.members[calls.place]? = some (.running call (.starting failures))) :
      Records session finding (.handler (.calling batch calls))
        (.asked (.sendAcks batch calls.place call))
  | settled {batch : List (Entry AckRequest)} {calls : Retry.Group AckCall Unit} {place : Nat}
      (awaited : calls.awaited? = some place) :
      Records session finding (.handler (.calling batch calls))
        (.settled batch place finding.settled)
  | gave {batch : List (Entry AckRequest)} {calls : Retry.Group AckCall Unit}
      {result : Outcome Unit}
      (all : result = .ok () → ∃ values : List Unit, calls.values = values.map some) :
      Records session finding (.handler (.calling batch calls)) (.handled batch result)
  | announcedFailure {batch : List (Entry AckRequest)} {calls : Retry.Group AckCall Unit}
      {error : Error} :
      Records session finding (.handler (.calling batch calls))
        (.asked (.publish (failedEvent batch.length error)))
  | announcedError {batch : List (Entry AckRequest)} {calls : Retry.Group AckCall Unit}
      {error : Error} :
      Records session finding (.handler (.calling batch calls))
        (.asked (.publish (storedEvent error)))
  | failed {batch : List (Entry AckRequest)} {error : Error} :
      Records session finding (.handler (.failing batch error)) (.failed batch error)
  | gaveUp {batch : List (Entry AckRequest)} {error : Error} :
      Records session finding (.handler (.failing batch error)) (.handled batch (.error error))
  | tookOver {left batch : List (Entry AckRequest)} {result : Outcome Unit} :
      Records session finding (.handler (.answering left result)) (.tookOver batch)
  -- Driver calls that are going to be repeated
  | retried {task : Activity} {event : Event}
      (calling : (∃ number calls, task = .fetch (.calling number calls)) ∨
        ∃ batch calls, task = .handler (.calling batch calls))
      (kind : event.kind = .retryScheduled) :
      Records session finding task (.asked (.publish event))
  -- Timers and shutdowns
  | lingered {wakeAt : Nat} {inner : BatchEffect AckRequest} :
      Records session finding (.timer wakeAt) (.asked (.batching inner))
  | flushed {context : Nat} {flush : Batcher.Flush} {inner : BatchEffect AckRequest} :
      Records session finding (.shutdown context (.flushing flush)) (.asked (.batching inner))
  | ended {context : Nat} {flush : Batcher.Flush}
      (reason : context ∈ session.cancelled ∨
        (flushStep (session.moment finding) session.subscription flush).next = .done ()) :
      Records session finding (.shutdown context (.flushing flush)) (.asked .close)
  | refused {context : Nat} {error : Error} :
      Records session finding (.shutdown context .begin) (.refused context error)
  | told {context : Nat} {result : Outcome Unit} :
      Records session finding (.shutdown context .calling)
        (.asked (.publish (shutdownEvent result)))
  | closed {context : Nat} {driver : Except Fault Unit} {result : Outcome Unit} :
      Records session finding (.shutdown context .calling) (.closed context driver result)

section Turns

variable {session : Session Number} {finding : Finding}

/-- What a turn of a background receive at its driver calls records. -/
theorem records_calling
    (number : Nat)
    (calls : Retry.Group Nat (List Envelope))
    {turn : Turn (Subscription Number) Fetch Unit Effect}
    (taken : Fetch.step (session.moment finding) finding.fetched session.subscription
      (.calling number calls) = turn) :
    ∀ record ∈ Fetch.records finding.fetched (.calling number calls) turn.next
        ++ turn.effects.map .asked,
      Records session finding (.fetch (.calling number calls)) record := by
  have came : ∀ record ∈ cameTo calls.awaited? finding.fetched (.answered number · finding.fetched),
      Records session finding (.fetch (.calling number calls)) record := by
    intro record member
    obtain ⟨place, awaited, rfl⟩ := mem_cameTo member
    exact .answered awaited
  have moved := calls.moved_step (fun _ => session.subscription.plan receiveOperation)
    session.subscription.backgroundEnded (session.moment finding) finding.fetched
  subst taken
  unfold Fetch.step Fetch.records
  dsimp only
  generalize calls.step _ _ _ _ = step at moved
  cases moved with
  | called found live =>
      simpa [or_imp, forall_and] using ⟨came, .requested live found⟩
  | announced found =>
      simpa [or_imp, forall_and] using ⟨came, .retried (.inl ⟨number, calls, rfl⟩) rfl⟩
  | @crashed request failures info found reason =>
      have ended : Records session finding (.fetch (.calling number calls)) (.crashed number) := by
        refine .crashed (reason.imp (fun panicked => ?_) fun missing => ⟨failures, missing⟩)
        exact ⟨calls.place, info, Retry.Group.awaited?_of_calling found, panicked⟩
      simpa [or_imp, forall_and] using ⟨came, ended⟩
  | passed | skipped | resumed | returned | finished | failed => simpa using came

/-- What a turn of the handler of a batch at its driver calls records. -/
theorem records_calling_handler
    (batch : List (Entry AckRequest))
    (calls : Retry.Group AckCall Unit)
    {turn : Turn (Subscription Number) Handler Unit Effect}
    (taken : Handler.step (session.moment finding) finding.settled session.subscription
      (.calling batch calls) = turn) :
    ∀ record ∈ Handler.records finding.settled (.calling batch calls) turn.next
        ++ turn.effects.map .asked,
      Records session finding (.handler (.calling batch calls)) record := by
  have came : ∀ record ∈ cameTo calls.awaited? finding.settled (.settled batch · finding.settled),
      Records session finding (.handler (.calling batch calls)) record := by
    intro record member
    obtain ⟨place, awaited, rfl⟩ := mem_cameTo member
    exact .settled awaited
  have moved := calls.moved_step (fun call => session.subscription.plan call.operation)
    session.subscription.backgroundEnded (session.moment finding) finding.settled
  subst taken
  unfold Handler.step Handler.records
  dsimp only
  generalize calls.step _ _ _ _ = step at moved
  cases moved with
  | called found live =>
      simpa [or_imp, forall_and] using ⟨came, .sent live found⟩
  | announced found =>
      simpa [or_imp, forall_and] using ⟨came, .retried (.inr ⟨batch, calls, rfl⟩) rfl⟩
  | @finished values all =>
      have ended : Records session finding (.handler (.calling batch calls))
          (.handled batch (.ok ())) := .gave fun _ => ⟨values, all⟩
      simpa [or_imp, forall_and] using ⟨came, ended⟩
  | @failed error reason =>
      have announced : Records session finding (.handler (.calling batch calls))
          (.asked (.publish (failedEvent batch.length error))) := .announcedFailure
      have stored : Records session finding (.handler (.calling batch calls))
          (.asked (.publish (storedEvent error))) := .announcedError
      cases canceled : error.isCanceled
      · simpa [Handler.failed, canceled, or_imp, forall_and] using ⟨came, announced, stored⟩
      · simpa [Handler.failed, canceled, or_imp, forall_and] using ⟨came, announced⟩
  | crashed reason =>
      have ended : Records session finding (.handler (.calling batch calls))
          (.handled batch (.error .handlerPanicked)) := .gave fun ok => by contradiction
      simpa [or_imp, forall_and] using ⟨came, ended⟩
  | passed | skipped | resumed | returned => simpa using came

/-- What a turn of the handler of a batch records. -/
theorem records_handler
    (handler : Handler)
    {turn : Turn (Subscription Number) Handler Unit Effect}
    (taken : handler.step (session.moment finding) finding.settled session.subscription = turn) :
    ∀ record ∈ handler.records finding.settled turn.next ++ turn.effects.map .asked,
      Records session finding (.handler handler) record := by
  cases handler with
  | calling batch calls => exact records_calling_handler batch calls taken
  | announcing batch =>
      subst taken
      simpa [Handler.step, Handler.records] using .dispatched
  | failing batch error =>
      subst taken
      simpa [Handler.step, Handler.recorded, Handler.records] using ⟨.failed, .gaveUp⟩
  | answering left result =>
      have silent : turn.effects = [] := by
        subst taken
        unfold Handler.step Handler.answered Batcher.handOver
        dsimp only
        split
        next => rfl
        next =>
          split
          next => rfl
          next => split <;> rfl
      rw [silent, List.map_nil, List.append_nil]
      intro record member
      unfold Handler.records at member
      split at member
      case h_4 task other batch same later =>
        cases same
        rw [List.mem_singleton.mp member]
        exact .tookOver
      all_goals contradiction

/-- A turn on the acknowledgments asks for what the batcher asks for. -/
theorem exists_batching_of_mem_onAcks {Task : Type}
    {subscription : Subscription Number}
    {turn : Turn (Batcher AckRequest) Task Unit (BatchEffect AckRequest)}
    {effect : Effect}
    (asked : effect ∈ (subscription.onAcks turn).effects) : ∃ inner, effect = .batching inner := by
  obtain ⟨inner, -, rfl⟩ := List.mem_map.mp asked
  exact ⟨inner, rfl⟩

theorem exists_batching_of_mem_lingerStep
    {moment : Moment}
    {subscription : Subscription Number}
    {wakeAt : Nat}
    {effect : Effect}
    (asked : effect ∈ (lingerStep moment subscription wakeAt).effects) :
    ∃ inner, effect = .batching inner := by
  unfold lingerStep at asked
  split at asked
  next => contradiction
  next acks present => exact exists_batching_of_mem_onAcks asked

theorem exists_batching_of_mem_flushStep
    {moment : Moment}
    {subscription : Subscription Number}
    {flush : Batcher.Flush}
    {effect : Effect}
    (asked : effect ∈ (flushStep moment subscription flush).effects) :
    ∃ inner, effect = .batching inner := by
  unfold flushStep at asked
  split at asked
  next => contradiction
  next acks present => exact exists_batching_of_mem_onAcks asked

/-- What a turn of a shutdown records. -/
theorem records_shutdown
    (context : Nat)
    (closing : Closing)
    {turn : Turn (Subscription Number) Closing Closed Effect}
    (taken : closingStep (session.moment finding) (session.cancelled.contains context)
      finding.settled session.subscription closing = turn) :
    ∀ record ∈ turn.effects.map .asked ++ closingRecords context finding.settled turn.next,
      Records session finding (.shutdown context closing) record := by
  subst taken
  cases closing with
  | begin =>
      by_cases late : session.subscription.sticky = some .subscriptionShutdown
      · simpa [closingStep, Closing.step, closable, beginShutdown, late, closingRecords] using
          .refused
      · simp [closingStep, Closing.step, closable, beginShutdown, late, closingRecords]
  | calling =>
      cases settled : finding.settled with
      | returned driver =>
          simpa [closingStep, Closing.step, closable, closingRecords] using ⟨.told, .closed⟩
      | _ => simp [closingStep, Closing.step, closingRecords]
  | flushing flush =>
      have asked : ∀ effect ∈ (flushStep (session.moment finding) session.subscription
          flush).effects,
          Records session finding (.shutdown context (.flushing flush)) (.asked effect) := by
        intro effect present
        obtain ⟨inner, rfl⟩ := exists_batching_of_mem_flushStep present
        exact .flushed
      unfold closingStep Closing.step
      dsimp only
      split
      next cancelled =>
        have closes : Records session finding (.shutdown context (.flushing flush))
            (.asked .close) := .ended (.inl (by simpa using (Bool.and_eq_true_iff.mp cancelled).1))
        simpa [Closing.endCalls, closable, closingRecords] using closes
      next =>
        split
        next done =>
          have closes : Records session finding (.shutdown context (.flushing flush))
              (.asked .close) := .ended (.inr done)
          simpa [Closing.endCalls, closable, closingRecords, or_imp, forall_and, closes]
            using asked
        next => simpa [closable, closingRecords] using asked
        next =>
          split
          next cancelled =>
            have closes : Records session finding (.shutdown context (.flushing flush))
                (.asked .close) := .ended (.inl (by simpa using cancelled))
            simpa [Closing.endCalls, closable, closingRecords, or_imp, forall_and, closes]
              using asked
          next => simpa [closable, closingRecords] using asked

variable [Scalar Number]

/-- What a turn of a receiver records. -/
theorem records_receiver
    (context : Nat)
    (cancelled : Bool)
    (receiver : Receiver)
    {turn : Turn (Subscription Number) Receiver (Outcome Message) Effect}
    (taken : receiver.step (session.moment finding) cancelled session.subscription = turn) :
    ∀ record ∈ turn.effects.map .asked
        ++ Receiver.records context session.subscription turn.state turn.next,
      Records session finding (.receiver context receiver) record := by
  intro record member
  rcases List.mem_append.mp member with asked | own
  · obtain ⟨effect, present, rfl⟩ := List.mem_map.mp asked
    subst taken
    cases receiver with
    | awaiting fetch => contradiction
    | asking =>
        unfold Receiver.step fetchEffects at present
        dsimp only at present
        split at present
        next => contradiction
        next =>
          rcases List.mem_pair.mp present with rfl | rfl
          · exact .sized
          · exact .starting
  · rcases List.mem_append.mp own with popped | answered
    · obtain ⟨envelope, -, rfl⟩ := List.mem_map.mp popped
      exact .popped
    · split at answered
      next result =>
        rw [List.mem_singleton.mp answered]
        exact .received
      next => contradiction

/-- What a turn of a task records. -/
theorem exists_records_turn
    (session : Session Number)
    (finding : Finding)
    (others : List Activity)
    (activity : Activity) :
    ∃ happened,
      (session.turn finding others activity).records = session.records ++ happened ∧
      ∀ record ∈ happened, Records session finding activity record := by
  cases activity with
  | receiver context receiver => exact ⟨_, rfl, records_receiver context _ receiver rfl⟩
  | handler handler => exact ⟨_, rfl, records_handler handler rfl⟩
  | shutdown context closing => exact ⟨_, rfl, records_shutdown context closing rfl⟩
  | timer wakeAt =>
      refine ⟨_, rfl, fun record member => ?_⟩
      obtain ⟨effect, present, rfl⟩ := List.mem_map.mp member
      obtain ⟨inner, rfl⟩ := exists_batching_of_mem_lingerStep present
      exact .lingered
  | fetch fetch =>
      cases fetch with
      | calling number calls => exact ⟨_, rfl, records_calling number calls rfl⟩
      | storing number result =>
          refine ⟨_, rfl, ?_⟩
          simpa [Fetch.step, Fetch.records] using .fetched
      | waking number => exact ⟨_, rfl, by simp [Fetch.step, Fetch.records]⟩

/-! ## Tasks that go on -/

/-- A task goes on from a turn. -/
inductive Continues (session : Session Number) (finding : Finding) : Activity → Activity → Prop
  | receiver {context : Nat} {receiver later : Receiver}
      (goesOn : later ∈ (receiver.step (session.moment finding)
        (session.cancelled.contains context) session.subscription).next.tasks) :
      Continues session finding (.receiver context receiver) (.receiver context later)
  | fetch {fetch later : Fetch}
      (goesOn : later ∈ (fetch.step (session.moment finding) finding.fetched
        session.subscription).next.tasks) :
      Continues session finding (.fetch fetch) (.fetch later)
  | handler {handler later : Handler}
      (goesOn : later ∈ (handler.step (session.moment finding) finding.settled
        session.subscription).next.tasks) :
      Continues session finding (.handler handler) (.handler later)
  | timer {wakeAt later : Nat} : Continues session finding (.timer wakeAt) (.timer later)
  | shutdown {context : Nat} {closing later : Closing}
      (goesOn : later ∈ (closingStep (session.moment finding)
        (session.cancelled.contains context) finding.settled session.subscription
        closing).next.tasks) :
      Continues session finding (.shutdown context closing) (.shutdown context later)

/-- A task was just started, because another one has asked for it. -/
def StartedIn (session : Session Number) (activity : Activity) : Prop :=
  ∃ effects, activity ∈ startedBy effects ∧
    ∀ effect ∈ effects, .asked effect ∈ session.records

/-- The tasks after a turn. -/
theorem mem_activities_turn
    {others : List Activity}
    {activity other : Activity}
    (member : other ∈ (session.turn finding others activity).activities) :
    StartedIn (session.turn finding others activity) other ∨
      Continues session finding activity other ∨ other ∈ others := by
  have resumed {Task Result : Type} (wrap : Task → Activity)
      (turn : Turn (Subscription Number) Task Result Effect)
      (asked : ∀ effect ∈ turn.effects,
        .asked effect ∈ (session.turn finding others activity).records)
      (goesOn : ∀ later ∈ turn.next.tasks, Continues session finding activity (wrap later)) :
      other ∈ startedBy turn.effects ++ (turn.next.tasks.map wrap ++ others) →
        StartedIn (session.turn finding others activity) other ∨
          Continues session finding activity other ∨ other ∈ others := by
    intro present
    rcases List.mem_append.mp present with started | present
    · exact .inl ⟨_, started, asked⟩
    · rcases List.mem_append.mp present with later | stayed
      · obtain ⟨task, remains, rfl⟩ := List.mem_map.mp later
        exact .inr (.inl (goesOn task remains))
      · exact .inr (.inr stayed)
  cases activity with
  | receiver context receiver =>
      exact resumed (.receiver context) (receiver.step _ _ _)
        (fun _ asks => List.mem_append_right _ (List.mem_append_left _ (List.mem_map_of_mem asks)))
        (fun _ => .receiver) member
  | fetch fetch =>
      exact resumed .fetch (fetch.step _ _ _)
        (fun _ asks => List.mem_append_right _ (List.mem_append_right _ (List.mem_map_of_mem asks)))
        (fun _ => .fetch) member
  | handler handler =>
      exact resumed .handler (handler.step _ _ _)
        (fun _ asks => List.mem_append_right _ (List.mem_append_right _ (List.mem_map_of_mem asks)))
        (fun _ => .handler) member
  | timer wakeAt =>
      exact resumed .timer (lingerStep _ _ _)
        (fun _ asks => List.mem_append_right _ (List.mem_map_of_mem asks))
        (fun _ _ => .timer) member
  | shutdown context closing =>
      exact resumed (.shutdown context) (closingStep _ _ _ _ _)
        (fun _ asks => List.mem_append_right _ (List.mem_append_left _ (List.mem_map_of_mem asks)))
        (fun _ => .shutdown) member

/-- Where a task that is at work after a move comes from. -/
inductive Arises (session : Session Number) (move : Move) (activity : Activity) : Prop
  | stayed (member : activity ∈ session.activities)
  | called (fresh : activity.IsFresh)
  | started (new : StartedIn (session.step move) activity)
  | wentOn {place : Nat} {finding : Finding} {actor : Activity}
      (taken : move = .turn place finding)
      (found : session.activities[place]? = some actor)
      (goesOn : Continues session finding actor activity)

omit [Scalar Number] in
/-- Handing over a request may start tasks. -/
theorem mem_activities_request
    {request : AckRequest}
    {activity : Activity}
    (member : activity ∈ (session.request request).activities) :
    StartedIn (session.request request) activity ∨ activity ∈ session.activities := by
  revert member
  unfold Session.request
  split
  next => exact .inr
  next =>
    split
    next => exact .inr
    next =>
      intro member
      exact (List.mem_append.mp member).imp_left fun started =>
        ⟨_, started, fun _ asks => by simp [Session.resume, asks]⟩

theorem arises_of_mem_step
    {move : Move}
    {activity : Activity}
    (member : activity ∈ (session.step move).activities) : Arises session move activity := by
  cases move with
  | turn place finding =>
      rw [Session.step] at member
      split at member
      next => exact .stayed member
      next actor found =>
        rcases mem_activities_turn member with new | goesOn | stayed
        · exact .started (by rwa [Session.step, found])
        · exact .wentOn rfl found goesOn
        · exact .stayed (List.mem_of_mem_eraseIdx stayed)
  | receive context =>
      rw [Session.step, Session.call] at member
      split at member
      next => exact .stayed member
      next =>
        rcases List.mem_cons.mp member with rfl | stayed
        · exact .called (.receiver context)
        · exact .stayed stayed
  | shutdown context =>
      rw [Session.step, Session.call] at member
      split at member
      next => exact .stayed member
      next =>
        rcases List.mem_cons.mp member with rfl | stayed
        · exact .called (.shutdown context)
        · exact .stayed stayed
  | complete place isAck =>
      rw [Session.step, Session.complete] at member
      split at member
      next message found =>
        dsimp only at member
        split at member
        next request sent =>
          rcases mem_activities_request member with new | stayed
          · refine .started ?_
            simpa only [Session.step, Session.complete, found, sent] using new
          · exact .stayed stayed
        next => exact .stayed member
      next => exact .stayed member
  | discard place =>
      rw [Session.step, Session.discard] at member
      split at member <;> exact .stayed member
  | abandon place =>
      rw [Session.step] at member
      split at member
      next => exact .stayed member
      next =>
        split at member
        next => exact .stayed (List.mem_of_mem_eraseIdx member)
        next => exact .stayed member
  | drop =>
      rw [Session.step] at member
      split at member <;> exact .stayed member
  | cancel context | elapse nanos => exact .stayed member

/-! ## What a move records -/

/-- What a move may record. -/
inductive Recorded (session : Session Number) (move : Move) : Record → Prop
  | turned {place : Nat} {finding : Finding} {actor : Activity} {record : Record}
      (taken : move = .turn place finding)
      (found : session.activities[place]? = some actor)
      (records : Records session finding actor record) : Recorded session move record
  | accepted {place : Nat} {isAck : Bool} {entry : Entry AckRequest}
      (completes : move = .complete place isAck)
      (present : session.subscription.acks ≠ none) : Recorded session move (.accepted entry)
  | dispatched {place : Nat} {isAck : Bool} {inner : BatchEffect AckRequest}
      (completes : move = .complete place isAck) :
      Recorded session move (.asked (.batching inner))
  | neglected {place : Nat} (discards : move = .discard place) :
      Recorded session move (.asked (.publish neglectedEvent))

omit [Scalar Number] in
/-- What is recorded when a request is handed over. -/
theorem exists_records_request
    (session : Session Number)
    (request : AckRequest)
    (place : Nat)
    (isAck : Bool) :
    ∃ happened, (session.request request).records = session.records ++ happened ∧
      ∀ record ∈ happened, Recorded session (.complete place isAck) record := by
  have nothing : ∀ record ∈ ([] : List Record),
      Recorded session (.complete place isAck) record := by simp
  unfold Session.request
  split
  next => exact ⟨[], (List.append_nil _).symm, nothing⟩
  next acks present =>
    split
    next => exact ⟨[], (List.append_nil _).symm, nothing⟩
    next id dispatch accepted =>
      refine ⟨_, rfl, fun record member => ?_⟩
      rcases List.mem_cons.mp member with rfl | asked
      · exact .accepted rfl (by rw [present]; exact nofun)
      · obtain ⟨effect, asks, rfl⟩ := List.mem_map.mp asked
        obtain ⟨inner, rfl⟩ := exists_batching_of_mem_onAcks asks
        exact .dispatched rfl

omit [Scalar Number] in
/-- The messages that receivers got make no difference. -/
theorem Recorded.of_messages
    {messages : List (Option Message)}
    {place : Nat}
    {isAck : Bool}
    {record : Record}
    (recorded : Recorded { session with messages } (.complete place isAck) record) :
    Recorded session (.complete place isAck) record := by
  cases recorded with
  | turned taken => contradiction
  | accepted completes present => exact .accepted completes present
  | dispatched completes => exact .dispatched completes
  | neglected discards => contradiction

/-- What a move records. -/
theorem exists_recorded_step (session : Session Number) (move : Move) :
    ∃ happened, (session.step move).records = session.records ++ happened ∧
      ∀ record ∈ happened, Recorded session move record := by
  have nothing : ∀ record ∈ ([] : List Record), Recorded session move record := by simp
  cases move with
  | turn place finding =>
      rw [Session.step]
      split
      next => exact ⟨[], (List.append_nil _).symm, nothing⟩
      next actor found =>
        obtain ⟨happened, records, known⟩ :=
          exists_records_turn session finding (session.activities.eraseIdx place) actor
        exact ⟨happened, records, fun record member => .turned rfl found (known record member)⟩
  | complete place isAck =>
      rw [Session.step, Session.complete]
      split
      next message present =>
        dsimp only
        split
        next request sent =>
          obtain ⟨happened, records, known⟩ := exists_records_request
            { session with
              messages := session.messages.set place (some (message.complete isAck).2) }
            request place isAck
          exact ⟨happened, records, fun record member => (known record member).of_messages⟩
        next => exact ⟨[], (List.append_nil _).symm, nothing⟩
      next => exact ⟨[], (List.append_nil _).symm, nothing⟩
  | discard place =>
      rw [Session.step, Session.discard]
      split
      next message present =>
        refine ⟨_, rfl, fun record member => ?_⟩
        split at member
        next =>
          rw [List.mem_singleton.mp member]
          exact .neglected rfl
        next => contradiction
      next => exact ⟨[], (List.append_nil _).symm, nothing⟩
  | receive context | shutdown context =>
      rw [Session.step, Session.call]
      split <;> exact ⟨[], (List.append_nil _).symm, nothing⟩
  | abandon place =>
      rw [Session.step]
      split
      next => exact ⟨[], (List.append_nil _).symm, nothing⟩
      next => split <;> exact ⟨[], (List.append_nil _).symm, nothing⟩
  | drop =>
      rw [Session.step]
      split <;> exact ⟨[], (List.append_nil _).symm, nothing⟩
  | cancel context | elapse nanos => exact ⟨[], (List.append_nil _).symm, nothing⟩

end Turns

end Subscription
end PubSub
