import PubSub.Proofs.Batch.Reaching
import PubSub.Proofs.Topic.Session

/-!
# The batcher of a topic

What tasks on a topic do to its batcher is what tasks on a batcher do: a sender that hands over
its message is a caller, the handler of a batch is a handler task, and a shutdown that flushes is a
flush. `Session.batching` shows a session of a topic as one of a batcher. A turn of a task that is
something to the batcher shows there as a turn of what it is, and everything else as a small
change. So whatever holds of every session that a batcher comes to holds of the batcher of every
topic.
-/

namespace PubSub
namespace Topic

/-! ## What a turn shows -/

@[simp] theorem batching?_comp_batching :
    Record.batching? ∘ (.batching : Batcher.Record Envelope → Record) = some := rfl

@[simp] theorem startedBy_nil : startedBy [] = [] := rfl

/-- Only the batcher starts tasks. -/
@[simp] theorem startedBy_publish (event : Event) : startedBy [.publish event] = [] := rfl

@[simp] theorem startedBy_sendBatch (envelopes : List Envelope) :
    startedBy [.sendBatch envelopes] = [] := rfl

@[simp] theorem startedBy_close : startedBy [.close] = [] := rfl

/-- What is asked for by the batcher is not recorded twice. -/
@[simp] theorem filterMap_record?_batching
    (batch : List (Entry Envelope))
    (effects : List (BatchEffect Envelope)) :
    effects.filterMap (Effect.record? batch ∘ Effect.batching) = [] :=
  List.filterMap_eq_nil_iff.mpr fun _ _ => rfl

/-- The tasks that are started for the batcher are the same. -/
@[simp] theorem filterMap_onBatcher?_startedBy (effects : List (BatchEffect Envelope)) :
    (startedBy (effects.map .batching)).filterMap Activity.onBatcher? =
      Batcher.startedBy effects := by
  induction effects with
  | nil => rfl
  | cons effect rest hypothesis =>
      rw [startedBy, Batcher.startedBy] at hypothesis ⊢
      cases effect <;> simpa [List.filterMap_cons, Handler.handling] using hypothesis

/-- What a sender does apart from that does not show on the batcher. -/
@[simp] theorem filterMap_batching?_sender_records
    (send : Send)
    (sender : Sender)
    (next : Next Sender (Outcome Unit)) :
    (sender.records send next).filterMap Record.batching? = [] := by
  unfold Sender.records
  split <;> rfl

@[simp] theorem filterMap_batching?_heard
    (answer : Answer (Except Fault Unit))
    (handler : Handler) : (handler.heard answer).filterMap Record.batching? = [] := by
  unfold Handler.heard
  split
  next => split <;> rfl
  next => rfl

@[simp] theorem filterMap_batching?_closingRecords
    (context : Nat)
    (answer : Answer (Except Fault Unit))
    (closing : Closing)
    (next : Next Closing Closed) :
    (closingRecords context answer closing next).filterMap Record.batching? = [] := by
  unfold closingRecords
  split
  next => rfl
  next => rfl
  next => rfl
  next => split <;> rfl
  next => rfl

/-- A turn of a task, as the batcher sees it. -/
theorem batching_resume {Task Result : Type}
    (session : Session)
    (others : List Activity)
    (wrap : Task → Activity)
    (happened : List Record)
    (turn : Turn Topic Task Result Effect) :
    (session.resume others wrap happened turn).batching =
      { session.batching with
        batcher := turn.state.batcher
        activities := (startedBy turn.effects).filterMap Activity.onBatcher? ++
          ((turn.next.tasks.map wrap).filterMap Activity.onBatcher? ++
            others.filterMap Activity.onBatcher?)
        records := session.batching.records ++ happened.filterMap Record.batching? } := by
  simp [Session.resume, Session.batching]

/-- The tasks that go on after a turn on the batcher. -/
theorem filterMap_onBatcher?_tasks {Task Result Outer Whole : Type}
    {task : Task → Outer}
    {result : Result → Whole}
    {wrap : Outer → Activity}
    {inner : Task → Batcher.Activity Envelope}
    (same : ∀ later, (wrap (task later)).onBatcher? = some (inner later))
    (next : Next Task Result) :
    ((next.map task result).tasks.map wrap).filterMap Activity.onBatcher? =
      Batcher.remaining inner next := by
  cases next <;>
    simp only [Next.map, Next.tasks, Batcher.remaining, List.map_cons, List.map_nil,
      List.filterMap_cons, List.filterMap_nil, same]

/-- A turn on the batcher is one of the batcher. -/
theorem batching_resume_onBatcher {Task Result Outer Whole : Type}
    (session : Session)
    (others : List Activity)
    {task : Task → Outer}
    {wrap : Outer → Activity}
    {inner : Task → Batcher.Activity Envelope}
    (same : ∀ later, (wrap (task later)).onBatcher? = some (inner later))
    (result : Result → Whole)
    (turn : Turn (Batcher Envelope) Task Result (BatchEffect Envelope))
    (happened : List Record) :
    (session.resume others wrap happened (session.topic.onBatcher task result turn)).batching =
      session.batching.resume (others.filterMap Activity.onBatcher?) inner
        (Batcher.startedBy turn.effects) (happened.filterMap Record.batching?) turn := by
  rw [batching_resume, onBatcher, Turn.map, filterMap_onBatcher?_startedBy,
    filterMap_onBatcher?_tasks same]
  rfl

/-! ## Turns -/

@[simp] theorem batcher_recordFailure (topic : Topic) (error : Error) :
    (topic.recordFailure error).batcher = topic.batcher := by
  unfold recordFailure
  split <;> rfl

section Turns

variable (session : Session) (finding : Finding) (others : List Activity)

/-- A sender that adds its message is a caller. -/
theorem batching_turn_adding (send : Send) (task : Batcher.Adding Envelope) :
    (session.turn finding others (.sender send (.adding task))).batching =
      session.batching.turn finding.contextFirst .running (others.filterMap Activity.onBatcher?)
        (.caller send.context task) := by
  have same : task.step (session.moment finding) (session.cancelled.contains send.context)
        session.topic.batcher =
      task.step (session.batching.moment finding.contextFirst)
        (session.cancelled.contains send.context) session.topic.batcher :=
    Batcher.adding_step_congr rfl rfl _ _ task
  have shown : ∀ later, (Activity.sender send (.adding later)).onBatcher? =
      some (.caller send.context later) := fun _ => rfl
  rw [Session.turn, Sender.onBatcher, Sender.adding?, Sender.step]
  dsimp only
  rw [same, batching_resume_onBatcher session others shown]
  simp [Batcher.Session.turn]

@[simp] theorem now_moment : (session.moment finding).now = session.now := rfl

@[simp] theorem contextFirst_moment :
    (session.moment finding).contextFirst = finding.contextFirst := rfl

/-- What is left of the tasks on the batcher when one of them takes a turn. -/
theorem perm_of_onBatcher?_eq_some
    {session : Session}
    {others : List Activity}
    {activity : Activity}
    {task : Batcher.Activity Envelope}
    (split : session.activities.Perm (activity :: others))
    (same : activity.onBatcher? = some task) :
    session.batching.activities.Perm (task :: others.filterMap Activity.onBatcher?) := by
  have sorted := split.filterMap Activity.onBatcher?
  rwa [List.filterMap_cons_some same] at sorted

/-- A task that is nothing to the batcher takes a turn. -/
theorem perm_of_onBatcher?_eq_none
    {session : Session}
    {others : List Activity}
    {activity : Activity}
    (split : session.activities.Perm (activity :: others))
    (nothing : activity.onBatcher? = none) :
    session.batching.activities.Perm (others.filterMap Activity.onBatcher?) := by
  have sorted := split.filterMap Activity.onBatcher?
  rwa [List.filterMap_cons_none nothing] at sorted

attribute [local simp] List.filterMap_cons Session.turn batching_resume onBatcher Turn.map Next.map
  Next.tasks Batcher.Session.turn Batcher.Session.resume Batcher.Session.moment Batcher.remaining

section Handlers

attribute [local simp] Handler.step Handler.failed Handler.handling Batcher.Handling.step
  Handler.onBatcher Batcher.Handling.records Batcher.Handling.batch Effect.record?

/-- The handler of a batch is a handler task. -/
theorem batching_turn_handler (handler : Handler) :
    ∃ answer,
      (session.turn finding others (.handler handler)).batching =
        session.batching.turn finding.contextFirst answer (others.filterMap Activity.onBatcher?)
          (.handler handler.handling) := by
  cases handler with
  | announcing batch =>
      refine ⟨.running, ?_⟩
      simp
  | calling batch phase =>
      generalize stepped : phase.step session.topic.plan session.topic.backgroundEnded
        (session.moment finding) finding.settled = step
      cases step with
      | wait =>
          refine ⟨.running, ?_⟩
          simp [stepped, Batcher.resultOf?]
      | call failures =>
          refine ⟨.running, ?_⟩
          simp [stepped, Batcher.resultOf?]
      | announce event next =>
          refine ⟨.running, ?_⟩
          simp [stepped, Batcher.resultOf?]
      | «continue» next =>
          refine ⟨.running, ?_⟩
          simp [stepped, Batcher.resultOf?]
      | finish result =>
          refine ⟨.returned result, ?_⟩
          cases result with
          | ok value => simp [stepped, Batcher.resultOf?]
          | error error => simp [stepped, Batcher.resultOf?]
      | crash info =>
          refine ⟨.returned (.error .handlerPanicked), ?_⟩
          simp [stepped, Batcher.resultOf?]
  | answering left result =>
      refine ⟨.running, ?_⟩
      cases left with
      | cons entry rest => simp [Batcher.handOver]
      | nil =>
        cases next : session.topic.batcher.nextBatch with
        | mk batch after =>
          cases batch with
          | none => simp [Batcher.handOver, next]
          | some batch => simp [Batcher.handOver, next]

end Handlers

/-- A linger timer is one of the batcher. -/
theorem batching_turn_timer (wakeAt : Nat) :
    (session.turn finding others (.timer wakeAt)).batching =
      session.batching.turn finding.contextFirst .running (others.filterMap Activity.onBatcher?)
        (.timer wakeAt) := by
  have shown : ∀ later, (Activity.timer (id later)).onBatcher? = some (.timer later) :=
    fun _ => rfl
  have same : session.topic.batcher.lingerStep (session.moment finding) wakeAt =
      session.topic.batcher.lingerStep (session.batching.moment finding.contextFirst) wakeAt :=
    Batcher.lingerStep_congr rfl _ wakeAt
  rw [Session.turn, lingerStep, same, batching_resume_onBatcher session others shown]
  simp

/-- A sender that has not yet come to the batcher is a caller when it does. -/
theorem changes_turn_sender
    {send : Send}
    {sender : Sender}
    (split : session.activities.Perm (.sender send sender :: others)) :
    Relation.ReflTransGen Batcher.Change session.batching
      (session.turn finding others (.sender send sender)).batching := by
  cases sender with
  | sending message =>
      have gone := Batcher.Change.reordered (perm_of_onBatcher?_eq_none split rfl)
      refine .single ?_
      cases sticky : session.topic.sticky <;>
        simpa [Sender.step, sticky, Sender.onBatcher, Sender.adding?] using gone
  | checking message =>
      have gone := Batcher.Change.reordered (perm_of_onBatcher?_eq_none split rfl)
      by_cases cancelled : send.context ∈ session.cancelled
      · refine .single ?_
        simpa [Sender.step, cancelled, Sender.onBatcher, Sender.adding?] using gone
      · cases encoded : message.toEnvelope with
        | error error =>
            refine .single ?_
            simpa [Sender.step, cancelled, encoded, Sender.onBatcher, Sender.adding?] using gone
        | ok envelope =>
            refine .tail (.single gone) ?_
            simpa [Sender.step, cancelled, encoded, Sender.onBatcher, Sender.adding?] using
              Batcher.Change.arrived (.caller send.context envelope.byteSize envelope)
  | adding task =>
      rw [batching_turn_adding]
      exact .single (Batcher.change_turn _ _ _ (perm_of_onBatcher?_eq_some split rfl))

attribute [local simp] closingStep Closing.step closable Closing.endCalls endBackground flushRecords
  Effect.record? Batcher.Flush.step Batcher.Flush.records Batcher.dispatched


/-- A shutdown that flushes is a flush, until it no longer waits. -/
theorem changes_turn_flushing
    {context : Nat}
    {flush : Batcher.Flush}
    (split : session.activities.Perm (.shutdown context (.flushing flush) :: others)) :
    Relation.ReflTransGen Batcher.Change session.batching
      (session.turn finding others (.shutdown context (.flushing flush))).batching := by
  have sorted := perm_of_onBatcher?_eq_some split rfl
  have left := Batcher.Change.left sorted (.flush flush)
  by_cases gone : context ∈ session.cancelled ∧ finding.contextFirst = true
  · refine .single ?_
    simpa [gone.1, gone.2] using left
  · have turned := Batcher.change_flush session.batching finding.contextFirst .running sorted
    refine .single ?_
    cases flush with
    | starting => simpa [gone] using turned
    | listening => simpa [gone] using turned
    | looking seen =>
        cases idle : session.topic.batcher.isIdle with
        | true => simpa [gone, idle] using turned
        | false =>
            by_cases cancelled : context ∈ session.cancelled
            · have later : finding.contextFirst = false := by simpa [cancelled] using gone
              simpa [cancelled, later, idle] using left
            · simpa [cancelled, idle] using turned
    | waiting seen =>
        by_cases noticed : session.topic.batcher.idleNotices = seen
        · by_cases cancelled : context ∈ session.cancelled
          · have later : finding.contextFirst = false := by simpa [cancelled] using gone
            simpa [cancelled, later, noticed] using left
          · simpa [cancelled, noticed] using turned
        · simpa [gone, noticed] using turned

/-- A turn of a shutdown. -/
theorem changes_turn_shutdown
    {context : Nat}
    {closing : Closing}
    (split : session.activities.Perm (.shutdown context closing :: others)) :
    Relation.ReflTransGen Batcher.Change session.batching
      (session.turn finding others (.shutdown context closing)).batching := by
  cases closing with
  | begin =>
      have gone := Batcher.Change.reordered (perm_of_onBatcher?_eq_none split rfl)
      by_cases late : session.topic.sticky = some .topicShutdown
      · refine .single ?_
        simpa [beginShutdown, late] using gone
      · refine .tail (.single gone) ?_
        simpa [beginShutdown, late] using Batcher.Change.arrived .flush
  | flushing flush => exact changes_turn_flushing session finding others split
  | calling =>
      have gone := Batcher.Change.reordered (perm_of_onBatcher?_eq_none split rfl)
      refine .single ?_
      cases settled : finding.settled <;>
        simpa [settled] using gone

/-- A turn of any task. -/
theorem changes_turn
    {activity : Activity}
    (split : session.activities.Perm (activity :: others)) :
    Relation.ReflTransGen Batcher.Change session.batching
      (session.turn finding others activity).batching := by
  cases activity with
  | sender send sender => exact changes_turn_sender session finding others split
  | handler handler =>
      obtain ⟨answer, same⟩ := batching_turn_handler session finding others handler
      rw [same]
      exact .single (Batcher.change_turn _ _ _ (perm_of_onBatcher?_eq_some split rfl))
  | timer wakeAt =>
      rw [batching_turn_timer]
      exact .single (Batcher.change_turn _ _ _ (perm_of_onBatcher?_eq_some split rfl))
  | shutdown context closing => exact changes_turn_shutdown session finding others split

end Turns

/-! ## Moves -/

section Moves

variable (session : Session)

theorem perm_eraseIdx
    {session : Session}
    {activity : Activity}
    {place : Nat}
    (found : session.activities[place]? = some activity) :
    session.activities.Perm (activity :: session.activities.eraseIdx place) := by
  obtain ⟨bound, rfl⟩ := List.getElem?_eq_some_iff.mp found
  exact (List.getElem_cons_eraseIdx_perm bound).symm

/-- A caller that is dropped may be missed by the batcher. -/
theorem change_of_isCaller
    {activity : Activity}
    {others : List Activity}
    (split : session.activities.Perm (activity :: others))
    (caller : activity.isCaller = true) :
    Batcher.Change session.batching (Session.batching { session with activities := others }) := by
  cases shown : activity.onBatcher? with
  | none => exact .reordered (perm_of_onBatcher?_eq_none split shown)
  | some task =>
      refine .left (perm_of_onBatcher?_eq_some split shown) ?_
      cases activity with
      | sender send sender =>
          cases sender with
          | adding task => cases shown; exact .caller ..
          | _ => contradiction
      | shutdown context closing =>
          cases closing with
          | flushing flush => cases shown; exact .flush _
          | _ => contradiction
      | _ => contradiction

/-- Every move is a chain of changes of the batcher. -/
theorem changes_batching_step (move : Move) :
    Relation.ReflTransGen Batcher.Change session.batching (session.step move).batching := by
  cases move with
  | send context message | shutdown context =>
      rw [Session.step]
      split <;> exact .refl
  | cancel context => exact .single (.cancelled context)
  | abandon place =>
      rw [Session.step]
      split
      next => exact .refl
      next activity found =>
        split
        next caller => exact .single (change_of_isCaller session (perm_eraseIdx found) caller)
        next => exact .refl
  | drop =>
      rw [Session.step]
      split <;> exact .refl
  | elapse nanos => exact .single (.elapsed nanos)
  | turn place finding =>
      rw [Session.step]
      split
      next => exact .refl
      next activity found => exact changes_turn session finding _ (perm_eraseIdx found)

theorem changes_batching_run (moves : List Move) :
    Relation.ReflTransGen Batcher.Change session.batching (session.run moves).batching := by
  induction moves generalizing session with
  | nil => exact .refl
  | cons move rest hypothesis =>
      exact (changes_batching_step session move).trans (hypothesis (session.step move))

end Moves

/-- Whatever is done to a topic, its batcher is one that a new batcher may come to. -/
theorem reached_batching (setup : Setup) (moves : List Move) :
    Batcher.Reached setup.batching (sessionOf setup moves).batching :=
  changes_batching_run setup.session moves

end Topic
end PubSub
