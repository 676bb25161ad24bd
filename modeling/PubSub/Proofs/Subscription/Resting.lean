import PubSub.Proofs.Retry.Members
import PubSub.Proofs.Subscription.Waking

/-!
# Sessions at rest

A session is at rest if every task at work waits where it stands: no turn does anything until
time passes, a driver call comes to an answer, or somebody calls. `IsResting.run_turns` says that
nothing happens however often the tasks take turns.

A receiver of a session at rest waits for a background receive that is at work on its driver
calls, or for one that ended abnormally and wakes nobody.
-/

namespace PubSub

namespace Subscription

variable {Number : Type} [Scalar Number]

/-- Whether a task waits where it stands as long as no driver call comes to an answer. -/
def Activity.isWaiting (session : Session Number) : Activity → Bool
  | .receiver context task =>
      (task.step (session.moment {}) (session.cancelled.contains context)
        session.subscription).next.staysAt task
  | .fetch (.calling _ calls) =>
      calls.isWaiting (fun _ => session.subscription.plan receiveOperation)
        session.subscription.backgroundEnded (session.moment {})
  | .fetch (.storing ..) => false
  | .fetch (.waking _) => false
  | .handler (.calling _ calls) =>
      calls.isWaiting (fun call => session.subscription.plan call.operation)
        session.subscription.backgroundEnded (session.moment {})
  | .handler (.announcing _) => false
  | .handler (.failing ..) => false
  | .handler (.answering ..) => false
  | .timer wakeAt =>
      (lingerStep (session.moment {}) session.subscription wakeAt).next.staysAt wakeAt
  | .shutdown context closing =>
      (closingStep (session.moment {}) (session.cancelled.contains context) .running
        session.subscription closing).next.staysAt closing

namespace Session

/-- Every task waits where it stands. -/
def IsResting (session : Session Number) : Prop :=
  ∀ activity ∈ session.activities, activity.isWaiting session = true

instance (session : Session Number) : Decidable session.IsResting :=
  inferInstanceAs (Decidable (∀ activity ∈ session.activities, activity.isWaiting session = true))

end Session

/-! ## Tasks that wait -/

section Waiting

variable {session : Session Number}

/-- A receiver waits for a background receive that has not woken it. -/
theorem awaiting_of_isWaiting
    {context : Nat}
    {receiver : Receiver}
    (waiting : (Activity.receiver context receiver).isWaiting session = true) :
    ∃ number, receiver = .awaiting number ∧ session.subscription.hasEnded number = false ∧
      session.cancelled.contains context = false := by
  cases receiver with
  | asking =>
      rw [Activity.isWaiting, Receiver.step] at waiting
      dsimp only at waiting
      cases move : (session.subscription.receive (session.cancelled.contains context)
        (session.moment {}).now).move <;> rw [move] at waiting <;> contradiction
  | awaiting number =>
      refine ⟨number, rfl, ?_⟩
      rw [Activity.isWaiting, Receiver.step] at waiting
      cases ended : session.subscription.hasEnded number with
      | true =>
          cases cancelled : session.cancelled.contains context <;>
            rw [cancelled, ended] at waiting <;> contradiction
      | false =>
          cases cancelled : session.cancelled.contains context with
          | true =>
              rw [cancelled, ended] at waiting
              contradiction
          | false => exact ⟨rfl, rfl⟩

/-- A background receive waits at its driver calls. -/
theorem calling_of_isWaiting
    {fetch : Fetch}
    (waiting : (Activity.fetch fetch).isWaiting session = true) :
    ∃ number calls, fetch = .calling number calls ∧
      calls.isWaiting (fun _ => session.subscription.plan receiveOperation)
        session.subscription.backgroundEnded (session.moment {}) = true := by
  cases fetch with
  | calling number calls => exact ⟨number, calls, rfl, waiting⟩
  | storing number result => contradiction
  | waking number => contradiction

/-- The handler of a batch of acknowledgments waits at its driver calls. -/
theorem calling_of_isWaiting_handler
    {handler : Handler}
    (waiting : (Activity.handler handler).isWaiting session = true) :
    ∃ batch calls, handler = .calling batch calls ∧
      calls.isWaiting (fun call => session.subscription.plan call.operation)
        session.subscription.backgroundEnded (session.moment {}) = true := by
  cases handler with
  | calling batch calls => exact ⟨batch, calls, rfl, waiting⟩
  | announcing batch => contradiction
  | failing batch error => contradiction
  | answering left result => contradiction

/-- A timer waits for its time. -/
theorem lt_of_isWaiting
    {wakeAt : Nat}
    (waiting : (Activity.timer wakeAt).isWaiting session = true) :
    ∃ acks, session.subscription.acks = some acks ∧ session.now < wakeAt := by
  rw [Activity.isWaiting, lingerStep] at waiting
  split at waiting
  next => contradiction
  next acks present =>
    refine ⟨acks, present, ?_⟩
    rw [Batcher.lingerStep] at waiting
    split at waiting
    next early => exact early
    next => contradiction

omit [Scalar Number] in
/-- A flush waits for another notice than those it has seen. -/
theorem waiting_of_flushStep
    {moment : Moment}
    {subscription : Subscription Number}
    {flush : Batcher.Flush}
    (waits : (flushStep moment subscription flush).next = .wait flush) :
    ∃ acks, subscription.acks = some acks ∧ flush = .waiting acks.idleNotices := by
  unfold flushStep at waits
  split at waits
  next => contradiction
  next acks present =>
    refine ⟨acks, present, ?_⟩
    cases flush with
    | starting => contradiction
    | listening => contradiction
    | looking seen =>
        simp only [onAcks, Turn.map, Batcher.Flush.step] at waits
        split at waits <;> simp [Next.map] at waits
    | waiting seen =>
        simp only [onAcks, Turn.map, Batcher.Flush.step] at waits
        split at waits
        next same => rw [same]
        next => simp [Next.map] at waits

/-- A shutdown waits for a notice that the acknowledgments are idle, or for the driver. -/
theorem closing_of_isWaiting
    {context : Nat}
    {closing : Closing}
    (waiting : (Activity.shutdown context closing).isWaiting session = true) :
    closing = .calling ∨
      ∃ acks, session.subscription.acks = some acks ∧
        closing = .flushing (.waiting acks.idleNotices) ∧
        session.cancelled.contains context = false := by
  rw [Activity.isWaiting, Next.staysAt_eq_true_iff, closingStep] at waiting
  cases closing with
  | calling => exact .inl rfl
  | begin =>
      unfold Closing.step at waiting
      dsimp only at waiting
      split at waiting <;> contradiction
  | flushing flush =>
      refine .inr ?_
      unfold Closing.step at waiting
      simp only [closable, Session.contextFirst_moment, Bool.and_false, Bool.false_eq_true,
        if_false] at waiting
      split at waiting
      next => contradiction
      next => contradiction
      next later next =>
        split at waiting
        next => contradiction
        next live =>
          cases waiting
          obtain ⟨acks, present, rfl⟩ := waiting_of_flushStep next
          exact ⟨acks, present, rfl, by simpa using live⟩

/-! ## Turns of tasks that wait -/

/-- Whether a task waits does not depend on the other tasks. -/
theorem isWaiting_activities (activities : List Activity) (activity : Activity) :
    activity.isWaiting { session with activities } = activity.isWaiting session := by
  cases activity with
  | fetch task => cases task <;> rfl
  | handler task => cases task <;> rfl
  | _ => rfl

attribute [local simp] Session.turn Session.resume Next.tasks startedBy gotten Receiver.records
  Fetch.step Fetch.records Handler.step Handler.records cameTo closingRecords

/-- A turn of a task that waits does nothing, as long as no driver call comes to an answer. -/
theorem turn_of_isWaiting
    {activity : Activity}
    (waiting : activity.isWaiting session = true)
    {finding : Finding}
    (fetched : finding.fetched = .running)
    (settled : finding.settled = .running)
    (others : List Activity) :
    ∃ later, session.turn finding others activity = { session with activities := later :: others } ∧
      later.isWaiting session = true := by
  cases activity with
  | receiver context task =>
      obtain ⟨number, rfl, ended, live⟩ := awaiting_of_isWaiting waiting
      refine ⟨.receiver context (.awaiting number), ?_, waiting⟩
      have stays : (Receiver.awaiting number).step (session.moment finding) false
          session.subscription =
        { state := session.subscription, next := .wait (.awaiting number) } := by
        simp [Receiver.step, ended]
      rw [Session.turn, live, stays]
      simp
  | fetch task =>
      obtain ⟨number, calls, rfl, still⟩ := calling_of_isWaiting waiting
      rcases Retry.Group.step_of_isWaiting still (session.now_moment finding) with passed | skipped
      · refine ⟨.fetch (.calling number { calls with place := 0 }), ?_, waiting⟩
        simp [fetched, passed]
      · refine ⟨.fetch (.calling number calls.advance), ?_, waiting⟩
        simp [fetched, skipped]
  | handler task =>
      obtain ⟨batch, calls, rfl, still⟩ := calling_of_isWaiting_handler waiting
      rcases Retry.Group.step_of_isWaiting still (session.now_moment finding) with passed | skipped
      · refine ⟨.handler (.calling batch { calls with place := 0 }), ?_, waiting⟩
        simp [settled, passed]
      · refine ⟨.handler (.calling batch calls.advance), ?_, waiting⟩
        simp [settled, skipped]
  | timer wakeAt =>
      obtain ⟨acks, present, early⟩ := lt_of_isWaiting waiting
      refine ⟨.timer wakeAt, ?_, waiting⟩
      have stays : lingerStep (session.moment finding) session.subscription wakeAt =
          { state := session.subscription, next := .wait wakeAt } := by
        simp [lingerStep, present, Batcher.lingerStep, early, onAcks, Turn.map, Next.map]
        rw [← present]
      rw [Session.turn, stays]
      simp
  | shutdown context closing =>
      refine ⟨.shutdown context closing, ?_, waiting⟩
      have stays : closingStep (session.moment finding) (session.cancelled.contains context)
          .running session.subscription closing =
        { state := session.subscription, next := .wait closing } := by
        rcases closing_of_isWaiting waiting with rfl | ⟨acks, present, rfl, live⟩
        · rfl
        · rw [live]
          simp [closingStep, Closing.step, closable, flushStep, present, Batcher.Flush.step,
            onAcks, Turn.map, Next.map]
          rw [← present]
      rw [Session.turn, settled, stays]
      simp

end Waiting

/-! ## Sessions at rest -/

/-- A turn in which no driver call comes to an answer. -/
inductive Move.IsIdle : Move → Prop
  | turn (place : Nat) {finding : Finding}
      (fetched : finding.fetched = .running)
      (settled : finding.settled = .running) : IsIdle (.turn place finding)

namespace Session.IsResting

variable {session : Session Number}

/-- The order of the tasks makes no difference. -/
theorem perm
    (resting : session.IsResting)
    {activities : List Activity}
    (same : session.activities.Perm activities) :
    Session.IsResting { session with activities } := by
  intro activity member
  rw [isWaiting_activities]
  exact resting activity (same.mem_iff.mpr member)

/-- One turn changes nothing that matters. -/
theorem step
    (resting : session.IsResting)
    {move : Move}
    (idle : move.IsIdle) :
    ∃ activities, session.step move = { session with activities } ∧
      Session.IsResting { session with activities } := by
  obtain ⟨place, fetched, settled⟩ := idle
  rw [Session.step]
  split
  next => exact ⟨session.activities, rfl, resting⟩
  next activity found =>
    obtain ⟨bound, rfl⟩ := List.getElem?_eq_some_iff.mp found
    have sorted := resting.perm (List.getElem_cons_eraseIdx_perm bound).symm
    have waits := List.forall_mem_cons.mp sorted
    obtain ⟨later, turned, still⟩ := turn_of_isWaiting
      (resting _ (List.getElem_mem bound)) fetched settled (session.activities.eraseIdx place)
    refine ⟨_, turned, List.forall_mem_cons.mpr ⟨?_, waits.2⟩⟩
    rw [isWaiting_activities]
    exact still

/-- However often tasks take turns in which no driver call comes to an answer, nothing happens,
and the session stays at rest. -/
theorem run_turns
    (resting : session.IsResting)
    (moves : List Move)
    (idle : ∀ move ∈ moves, move.IsIdle) :
    ∃ activities, session.run moves = { session with activities } ∧
      Session.IsResting { session with activities } := by
  induction moves generalizing session with
  | nil => exact ⟨session.activities, rfl, resting⟩
  | cons move later hypothesis =>
      obtain ⟨activities, stepped, still⟩ := resting.step (idle move (.head _))
      obtain ⟨others, run, last⟩ :=
        hypothesis still fun move member => idle move (.tail _ member)
      refine ⟨others, ?_, last⟩
      rw [Session.run, List.foldl_cons, stepped]
      exact run

end Session.IsResting

end Subscription
end PubSub
