import PubSub.Proofs.Retry.Members
import PubSub.Proofs.Topic.Closing

/-!
# Sessions of a topic at rest

A task of a topic waits if a turn leaves it where it stands, as long as no driver call comes to an
answer. At rest all tasks wait, and `IsResting.run_turns` says that nothing happens then, however
often they take turns. So tasks do all that they can do by themselves in runs in which only tasks
that do not wait take turns: such a run is `Busy`.
-/

namespace PubSub
namespace Topic

/-- Whether a task waits where it stands as long as no driver call comes to an answer. -/
def Activity.isWaiting (session : Session) : Activity → Bool
  | .sender send task =>
      (task.step (session.moment {}) (session.cancelled.contains send.context)
        session.topic).next.isWaiting
  | .handler task => (task.step (session.moment {}) .running session.topic).next.isWaiting
  | .timer wakeAt => (session.topic.lingerStep (session.moment {}) wakeAt).next.isWaiting
  | .shutdown context closing =>
      (closingStep (session.moment {}) (session.cancelled.contains context) .running session.topic
        closing).next.staysAt closing

namespace Session

/-- Every task waits where it stands. -/
def IsResting (session : Session) : Prop :=
  ∀ activity ∈ session.activities, activity.isWaiting session = true

instance (session : Session) : Decidable session.IsResting :=
  inferInstanceAs (Decidable (∀ activity ∈ session.activities, activity.isWaiting session = true))

end Session

/-- A turn in which no driver call comes to an answer. -/
inductive Move.IsIdle : Move → Prop
  | turn (place : Nat) {finding : Finding} (settled : finding.settled = .running) :
      IsIdle (.turn place finding)

/-- Moves in which tasks that do not wait take turns, while no driver call comes to an answer. -/
inductive Session.Busy : Session → List Move → Prop
  | rest (session : Session) : Busy session []
  | turn {session : Session} {place : Nat} {activity : Activity} {finding : Finding}
      {later : List Move}
      (found : session.activities[place]? = some activity)
      (awake : activity.isWaiting session = false)
      (settled : finding.settled = .running)
      (goesOn : Busy (session.step (.turn place finding)) later) :
      Busy session (.turn place finding :: later)

/-! ## Tasks that wait -/

section Waiting

variable {session : Session}

attribute [local simp] onBatcher Turn.map Turn.mapTask Next.map Next.isWaiting

/-- A sender waits for the result of its message. -/
theorem awaiting_of_isWaiting
    {send : Send}
    {sender : Sender}
    (waiting : (Activity.sender send sender).isWaiting session = true) :
    ∃ id, sender = .adding (.awaiting id) ∧ session.topic.batcher.answer? id = none ∧
      id ∉ session.topic.batcher.withdrawn ∧ send.context ∉ session.cancelled := by
  rw [Activity.isWaiting] at waiting
  cases sender with
  | sending message =>
      unfold Sender.step at waiting
      dsimp only at waiting
      split at waiting <;> contradiction
  | checking message =>
      unfold Sender.step at waiting
      dsimp only at waiting
      split at waiting
      next => contradiction
      next => split at waiting <;> contradiction
  | adding task =>
      cases task with
      | entering size envelope =>
          simp only [Sender.step, Batcher.Adding.step, onBatcher, Turn.map] at waiting
          split at waiting
          next => contradiction
          next => split at waiting <;> contradiction
      | awaiting id =>
          refine ⟨id, rfl, ?_⟩
          simp only [Sender.step, Batcher.Adding.step, onBatcher, Turn.map, Turn.mapTask,
            Batcher.awaitAnswer, contextFirst_moment, Bool.and_false, Bool.false_eq_true,
            if_false] at waiting
          split at waiting
          next => contradiction
          next unanswered =>
            split at waiting
            next => contradiction
            next kept =>
              split at waiting
              next => contradiction
              next live => exact ⟨unanswered, by simpa using kept, by simpa using live⟩

/-- The handler of a batch waits at its driver call. -/
theorem calling_of_isWaiting
    {handler : Handler}
    (waiting : (Activity.handler handler).isWaiting session = true) :
    ∃ batch phase, handler = .calling batch phase ∧
      phase.step session.topic.plan session.topic.backgroundEnded (session.moment {})
        (.running : Answer (Except Fault Unit)) = .wait := by
  rw [Activity.isWaiting] at waiting
  cases handler with
  | announcing batch => contradiction
  | calling batch phase =>
      refine ⟨batch, phase, rfl, ?_⟩
      unfold Handler.step at waiting
      dsimp only at waiting
      split at waiting
      next same => exact same
      all_goals contradiction
  | answering left result =>
      simp only [Handler.step, Batcher.handOver, onBatcher, Turn.map] at waiting
      split at waiting
      next => contradiction
      next => split at waiting <;> contradiction

/-- A timer waits for its time. -/
theorem lt_of_isWaiting
    {wakeAt : Nat}
    (waiting : (Activity.timer wakeAt).isWaiting session = true) : session.now < wakeAt := by
  by_contra due
  simp [Activity.isWaiting, lingerStep, Batcher.lingerStep, due, Batcher.dispatched] at waiting

/-- A shutdown waits for a notice that the batcher is idle, or for the driver. -/
theorem closing_of_isWaiting
    {context : Nat}
    {closing : Closing}
    (waiting : (Activity.shutdown context closing).isWaiting session = true) :
    closing = .calling ∨
      closing = .flushing (.waiting session.topic.batcher.idleNotices) ∧
        context ∉ session.cancelled := by
  rw [Activity.isWaiting, Next.staysAt_eq_true_iff, closingStep] at waiting
  cases closing with
  | calling => exact .inl rfl
  | begin =>
      unfold Closing.step at waiting
      dsimp only at waiting
      split at waiting <;> contradiction
  | flushing flush =>
      refine .inr ?_
      unfold Closing.step at waiting
      simp only [closable, contextFirst_moment, Bool.and_false, Bool.false_eq_true, if_false]
        at waiting
      cases flush with
      | starting => contradiction
      | listening => contradiction
      | looking seen =>
          cases idle : session.topic.batcher.isIdle <;>
            by_cases cancelled : context ∈ session.cancelled <;>
            simp [Batcher.Flush.step, Closing.endCalls, idle, cancelled] at waiting
      | waiting seen =>
          by_cases noticed : session.topic.batcher.idleNotices = seen
          · by_cases cancelled : context ∈ session.cancelled
            · simp [Batcher.Flush.step, Closing.endCalls, noticed, cancelled] at waiting
            · exact ⟨by rw [noticed], cancelled⟩
          · simp [Batcher.Flush.step, noticed] at waiting

/-! ## Turns of tasks that wait -/

/-- Whether a task waits does not depend on the other tasks. -/
theorem isWaiting_activities (activities : List Activity) (activity : Activity) :
    activity.isWaiting { session with activities } = activity.isWaiting session := by
  cases activity <;> rfl

attribute [local simp] Session.turn Session.resume Next.tasks startedBy

/-- A turn of a task that waits does nothing, as long as no driver call comes to an answer. -/
theorem turn_of_isWaiting
    {activity : Activity}
    (waiting : activity.isWaiting session = true)
    {finding : Finding}
    (settled : finding.settled = .running)
    (others : List Activity) :
    session.turn finding others activity =
      { session with activities := activity :: others } := by
  cases activity with
  | sender send sender =>
      obtain ⟨id, rfl, unanswered, kept, live⟩ := awaiting_of_isWaiting waiting
      simp [Sender.step, Batcher.Adding.step, Batcher.awaitAnswer, unanswered, kept, live,
        Sender.onBatcher, Sender.adding?, Batcher.Adding.records, Sender.records]
  | handler handler =>
      obtain ⟨batch, phase, rfl, waits⟩ := calling_of_isWaiting waiting
      have stays : phase.step session.topic.plan session.topic.backgroundEnded
          (session.moment finding) (.running : Answer (Except Fault Unit)) = .wait :=
        (Retry.step_running_congr (by simp) ..).trans waits
      have silent : (Handler.calling batch phase).heard .running = [] := by cases phase <;> rfl
      simp [Handler.step, settled, stays, silent, Handler.onBatcher]
  | timer wakeAt =>
      have early := lt_of_isWaiting waiting
      simp [lingerStep, Batcher.lingerStep, early]
  | shutdown context closing =>
      rcases closing_of_isWaiting waiting with rfl | ⟨rfl, live⟩
      · simp [closingStep, Closing.step, settled, flushRecords, closingRecords]
      · simp [closingStep, Closing.step, closable, flushRecords, closingRecords, live,
          Batcher.Flush.step, Batcher.Flush.records]

end Waiting

/-! ## Sessions at rest -/

namespace Session.IsResting

variable {session : Session}

/-- The order of the tasks makes no difference. -/
theorem perm
    (resting : session.IsResting)
    {activities : List Activity}
    (same : session.activities.Perm activities) :
    Session.IsResting { session with activities } := by
  intro activity member
  rw [isWaiting_activities]
  exact resting activity (same.mem_iff.mpr member)

/-- One turn changes the order of the tasks only. -/
theorem step
    (resting : session.IsResting)
    {move : Move}
    (idle : move.IsIdle) :
    ∃ activities, session.activities.Perm activities ∧
      session.step move = { session with activities } := by
  obtain ⟨place, settled⟩ := idle
  rw [Session.step]
  split
  next => exact ⟨session.activities, .refl _, rfl⟩
  next activity found =>
    obtain ⟨bound, rfl⟩ := List.getElem?_eq_some_iff.mp found
    exact ⟨_, (List.getElem_cons_eraseIdx_perm bound).symm,
      turn_of_isWaiting (resting _ (List.getElem_mem bound)) settled _⟩

/-- However often tasks take turns in which no driver call comes to an answer, only their order
changes. -/
theorem run_turns
    (resting : session.IsResting)
    (moves : List Move)
    (idle : ∀ move ∈ moves, move.IsIdle) :
    ∃ activities, session.activities.Perm activities ∧
      session.run moves = { session with activities } := by
  induction moves generalizing session with
  | nil => exact ⟨session.activities, .refl _, rfl⟩
  | cons move later hypothesis =>
      obtain ⟨activities, same, stepped⟩ := resting.step (idle move (.head _))
      obtain ⟨others, sameLater, run⟩ := hypothesis (resting.perm same)
        fun move member => idle move (.tail _ member)
      refine ⟨others, same.trans sameLater, ?_⟩
      rw [Session.run, List.foldl_cons, stepped]
      exact run

end Session.IsResting

/-- A session that is not at rest has a task that does not wait. -/
theorem exists_awake {session : Session} (restless : ¬ session.IsResting) :
    ∃ (place : Nat) (activity : Activity), session.activities[place]? = some activity ∧
      activity.isWaiting session = false := by
  simp only [Session.IsResting, not_forall, Bool.not_eq_true] at restless
  obtain ⟨activity, member, awake⟩ := restless
  obtain ⟨place, found⟩ := List.mem_iff_getElem?.mp member
  exact ⟨place, activity, found, awake⟩

end Topic
end PubSub
