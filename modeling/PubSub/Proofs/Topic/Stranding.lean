import PubSub.Proofs.Batch.Settling
import PubSub.Proofs.Topic.Resting

/-!
# No call is left without an answer

A shutdown that has flushed has shut the batcher down. After it has closed the driver, driver calls
come to an end by themselves, and handlers go on with whatever is pending, so all that is left is a
number of turns that `Session.work` bounds. When no task can go on, no call is at work any more:
each was answered on the way.

A shutdown whose context is cancelled may close the driver without a flush. Then the batcher goes on
waiting for company for messages of which nobody sends more.
-/

namespace PubSub
namespace Topic

attribute [local simp] List.filterMap_cons

/-! ## Shutdowns that are over -/

@[simp] def Record.skipped? : Record → Option Nat
  | .skipped context => some context
  | _ => none

@[simp] def Record.closed? : Record → Option (Nat × Except Fault Unit × Outcome Unit)
  | .closed context driver result => some (context, driver, result)
  | _ => none

@[simp] def Activity.send? : Activity → Option Send
  | .sender send _ => some send
  | _ => none

namespace Session

variable (session : Session)

/-- The calls at work. -/
def senders : List Send := session.activities.filterMap Activity.send?

/-- The shutdowns that have not flushed. -/
@[simp] def skipped : List Nat := session.records.filterMap Record.skipped?

/-- The shutdowns that have closed the driver, with how that ended and with what they were
answered. -/
@[simp] def closed : List (Nat × Except Fault Unit × Outcome Unit) :=
  session.records.filterMap Record.closed?

/-- Whether a call was answered. -/
def HasAnswered (send : Send) : Prop :=
  (∃ error, (send, error) ∈ session.rejected) ∨
    ∃ id result, (send, id, result) ∈ session.returned

/-- Whether a call is at work or was answered. -/
def Keeps (send : Send) : Prop :=
  send ∈ session.senders ∨ session.HasAnswered send

/-- The driver was asked to close, and the batcher is shut down. -/
structure IsOver : Prop where
  expired : session.topic.backgroundEnded = true
  down : session.topic.batcher.isShutdown = true
  closes : 0 < session.closes

end Session

theorem mem_senders {session : Session} {send : Send} :
    send ∈ session.senders ↔ ∃ sender, .sender send sender ∈ session.activities := by
  refine List.mem_filterMap.trans ⟨fun ⟨activity, member, same⟩ => ?_, fun ⟨sender, member⟩ =>
    ⟨_, member, rfl⟩⟩
  cases activity with
  | sender other sender => exact ⟨sender, Option.some.inj same ▸ member⟩
  | _ => contradiction

@[simp] theorem skipped?_comp_batching :
    Record.skipped? ∘ (.batching : Batcher.Record Envelope → Record) = fun _ => none := rfl

@[simp] theorem closed?_comp_batching :
    Record.closed? ∘ (.batching : Batcher.Record Envelope → Record) = fun _ => none := rfl

/-- A flush that has begun has shut the batcher down. -/
theorem isShutdown_of_flushing
    {session : Session}
    (noticed : Batcher.Noticed session.batching)
    {context : Nat}
    {flush : Batcher.Flush}
    (flushing : .shutdown context (.flushing flush) ∈ session.activities)
    (begun : flush ≠ .starting) : session.topic.batcher.isShutdown = true := by
  have fits := noticed flush (List.mem_filterMap.mpr ⟨_, flushing, rfl⟩)
  cases flush with
  | starting => contradiction
  | listening => exact fits
  | looking seen | waiting seen => exact fits.1

/-- What is known once a shutdown has closed the driver. -/
structure Concluded (session : Session) : Prop where
  skipped : ∀ context ∈ session.skipped, context ∈ session.began ∧ context ∈ session.cancelled
  closes : 0 < session.closes → session.topic.backgroundEnded = true ∧
    (session.topic.batcher.isShutdown = true ∨ session.skipped ≠ [])
  closed : ∀ ending ∈ session.closed, ending.1 ∈ session.began ∧ 0 < session.closes

namespace Concluded

variable {before after : Session}

theorem create (setup : Setup) : Concluded setup.session where
  skipped := by simp [Setup.session]
  closes := by simp [Setup.session]
  closed := by simp [Setup.session]

/-- No shutdown closes the driver. -/
theorem congr
    (concluded : Concluded before)
    (skipped : after.skipped = before.skipped)
    (closes : after.closes = before.closes)
    (closed : after.closed = before.closed)
    (began : before.began ⊆ after.began)
    (cancelled : before.cancelled ⊆ after.cancelled)
    (expired : before.topic.backgroundEnded = true → after.topic.backgroundEnded = true)
    (down : before.topic.batcher.isShutdown = true → after.topic.batcher.isShutdown = true) :
    Concluded after where
  skipped context member := by
    rw [skipped] at member
    exact (concluded.skipped context member).imp (@began context) (@cancelled context)
  closes closing := by
    rw [closes] at closing
    rw [skipped]
    exact (concluded.closes closing).imp expired (Or.imp_left down)
  closed ending member := by
    rw [closed] at member
    rw [closes]
    exact (concluded.closed ending member).imp_left (@began ending.1)

theorem change
    (change : Change before after)
    (shutting : Shutting before)
    (noticed : Batcher.Noticed before.batching)
    (down : before.topic.batcher.isShutdown = true → after.topic.batcher.isShutdown = true)
    (concluded : Concluded before) : Concluded after := by
  cases change with
  | @ended context flush others happened split begun =>
      have isDown := isShutdown_of_flushing noticed (split.mem_iff.mpr (.head _)) begun
      refine ⟨by simpa using concluded.skipped, fun _ => ⟨rfl, .inl isDown⟩, ?_⟩
      intro ending member
      have earlier := concluded.closed ending (by simpa using member)
      exact ⟨by simpa using earlier.1, by simp⟩
  | @skipped context others split cancelled =>
      have began := shutting.context context _ (split.mem_iff.mpr (.head _)) (by simp)
      refine ⟨fun other member => ?_, fun _ => ⟨rfl, .inr (by simp)⟩, fun ending member => ?_⟩
      · have cases : other ∈ before.skipped ∨ other = context := by simpa using member
        rcases cases with earlier | rfl
        · simpa using concluded.skipped other earlier
        · exact ⟨by simpa using began, cancelled⟩
      · have earlier := concluded.closed ending (by simpa using member)
        exact ⟨by simpa using earlier.1, by simp⟩
  | @closed context driver result others split =>
      have began := shutting.context context _ (split.mem_iff.mpr (.head _)) (by simp)
      have closing : 0 < before.activities.countP Activity.isClosing :=
        List.countP_pos_iff.mpr ⟨_, split.mem_iff.mpr (.head _), rfl⟩
      have announced := shutting.announced
      refine ⟨by simpa using concluded.skipped, by simpa using concluded.closes,
        fun ending member => ?_⟩
      have cases : ending ∈ before.closed ∨ ending = (context, driver, result) := by
        simpa using member
      rcases cases with earlier | rfl
      · simpa using concluded.closed ending earlier
      · have closes : 0 < before.closes := by omega
        exact ⟨by simpa using began, by simpa using closes⟩
  | cancelled =>
      exact concluded.congr rfl rfl rfl (List.Subset.refl _) (List.subset_cons_self ..) id down
  | dropped =>
      exact concluded.congr rfl rfl rfl (List.Subset.refl _) (List.Subset.refl _)
        (fun _ => rfl) down
  | passed | checked | resumed | called | arrived | left | reordered | elapsed =>
      exact concluded.congr rfl rfl rfl (List.Subset.refl _) (List.Subset.refl _) id down
  | _ =>
      exact concluded.congr (by simp) (by simp) (by simp) (by simp) (List.Subset.refl _) id down

end Concluded

/-! ## What tasks can do by themselves -/

/-- A bound on the turns that a handler takes before it is done with its batch. -/
@[simp] def Handler.work : Handler → Nat
  | .announcing batch => batch.length + 3
  | .calling batch _ => batch.length + 2
  | .answering left _ => left.length + 1

@[simp] def Activity.work : Activity → Nat
  | .sender _ (.checking _) => 2
  | .sender .. => 1
  | .handler task => task.work
  | .timer _ => 1
  | .shutdown .. => 1

@[simp] def workOf : List Activity → Nat
  | [] => 0
  | activity :: others => activity.work + workOf others

@[simp] theorem workOf_append (left right : List Activity) :
    workOf (left ++ right) = workOf left + workOf right := by
  induction left with
  | nil => simp
  | cons activity rest hypothesis => simp [hypothesis, Nat.add_assoc]

theorem workOf_perm {left right : List Activity} (same : left.Perm right) :
    workOf left = workOf right := by
  induction same with
  | nil => rfl
  | cons activity _ hypothesis => simp [hypothesis]
  | swap first second rest => simp [Nat.add_left_comm]
  | trans _ _ first second => exact first.trans second

/-- A bound on the turns that tasks take by themselves once the driver is closed; a pending message
may need a batch of its own. -/
def Session.work (session : Session) : Nat :=
  4 * session.topic.batcher.pending.length + workOf session.activities

/-- The work that a turn leaves. -/
def workAfter {Task Result : Type}
    (wrap : Task → Activity)
    (turn : Turn Topic Task Result Effect) : Nat :=
  4 * turn.state.batcher.pending.length
    + (workOf (startedBy turn.effects) + workOf (turn.next.tasks.map wrap))

theorem work_resume {Task Result : Type}
    (session : Session)
    (others : List Activity)
    (wrap : Task → Activity)
    (happened : List Record)
    (turn : Turn Topic Task Result Effect) :
    (session.resume others wrap happened turn).work = workAfter wrap turn + workOf others := by
  simp only [Session.work, Session.resume, workAfter, workOf_append, Nat.add_assoc]

section Turns

variable {session : Session} {finding : Finding}

attribute [local simp] workAfter Next.tasks startedBy onBatcher Turn.map Next.map Turn.mapTask
  Sender.step Batcher.Adding.step Batcher.awaitAnswer Batcher.giveUp

/-- Under an ended context, a handler comes closer to its end. -/
theorem Handler.workAfter_lt
    {topic : Topic}
    (expired : topic.backgroundEnded = true)
    (moment : Moment)
    (handler : Handler) :
    workAfter .handler (handler.step moment .running topic) <
      4 * topic.batcher.pending.length + handler.work := by
  cases handler with
  | announcing batch => simp [Handler.step]
  | calling batch phase => simp [Handler.step, expired, failed]
  | answering left result =>
      cases left with
      | cons entry rest => simp [Handler.step, Batcher.handOver, Batcher.answer]
      | nil =>
          rcases topic.batcher.nextBatch_cases with
            ⟨next, rest, taken, -, handout, -, -⟩ | ⟨stopped, -⟩
          · have queue := congrArg List.length handout.queue
            have nonempty := List.length_pos_iff.mpr (handout.nonempty next (.head _))
            simp only [List.flatten_singleton, List.length_append] at queue
            simp [Handler.step, Batcher.handOver, taken]
            omega
          · simp [Handler.step, Batcher.handOver, stopped, Batcher.noteIdle_eq]

/-- Items leave the queue only. -/
theorem length_pending_withdraw_le (batcher : Batcher Envelope) (id : Nat) :
    (batcher.withdraw id).pending.length ≤ batcher.pending.length := by
  unfold Batcher.withdraw
  split
  next => exact Nat.le_refl _
  next => simpa [Batcher.noteIdle_eq] using List.length_eraseP_le

/-- A sender of a topic that is shut down comes closer to its answer unless it waits for it. -/
theorem Sender.workAfter_lt
    {send : Send}
    {sender : Sender}
    (awake : (Activity.sender send sender).isWaiting session = false)
    (ending : session.isEnding = true)
    (down : session.topic.batcher.isShutdown = true) :
    workAfter (.sender send) (sender.step (session.moment finding)
        (session.cancelled.contains send.context) session.topic) <
      4 * session.topic.batcher.pending.length + (Activity.sender send sender).work := by
  cases sender with
  | sending message =>
      have sticky : session.topic.sticky = some .topicShutdown := of_decide_eq_true ending
      simp [sticky]
  | checking message =>
      by_cases cancelled : send.context ∈ session.cancelled
      · simp [cancelled]
      · cases encoded : message.toEnvelope <;> simp [cancelled, encoded]
  | adding task =>
      cases task with
      | entering size envelope =>
          by_cases cancelled : send.context ∈ session.cancelled
          · simp [cancelled]
          · cases accepted : session.topic.batcher.accept size envelope with
            | error error => simp [cancelled, accepted]
            | ok entry =>
                have running := (Batcher.accept_eq_ok accepted).2.1
                exact absurd (running.symm.trans down) (by simp)
      | awaiting id =>
          have shorter := length_pending_withdraw_le session.topic.batcher id
          by_cases gone : send.context ∈ session.cancelled ∧ finding.contextFirst = true
          · simp [gone.1, gone.2]
            omega
          · cases given : session.topic.batcher.answer? id with
            | some result => simp [gone, given]
            | none =>
                by_cases lost : id ∈ session.topic.batcher.withdrawn
                · simp [gone, given, lost]
                · by_cases cancelled : send.context ∈ session.cancelled
                  · have later : finding.contextFirst = false := by simpa [cancelled] using gone
                    simp [given, lost, cancelled, later]
                    omega
                  · simp [Activity.isWaiting, Next.isWaiting, given, lost, cancelled] at awake

/-- A timer of a batcher that is shut down hands nothing out. -/
theorem timer_workAfter_lt
    {wakeAt : Nat}
    (awake : (Activity.timer wakeAt).isWaiting session = false)
    (down : session.topic.batcher.isShutdown = true)
    (drained : session.topic.batcher.handlers < session.topic.batcher.options.handlerLimit →
      session.topic.batcher.pending = []) :
    workAfter .timer (session.topic.lingerStep (session.moment finding) wakeAt) <
      4 * session.topic.batcher.pending.length + (Activity.timer wakeAt).work := by
  have due : ¬ session.now < wakeAt := fun early => by
    simp [Activity.isWaiting, lingerStep, Batcher.lingerStep, early, Next.isWaiting] at awake
  simp [lingerStep, Batcher.lingerStep, due, Batcher.dispatched,
    Batcher.lingerEnded_of_isShutdown down drained, Dispatch.effects]

/-- Shutdowns that come late are refused. -/
theorem shutdown_workAfter_lt
    {context : Nat}
    {closing : Closing}
    (awake : (Activity.shutdown context closing).isWaiting session = false)
    (ending : session.isEnding = true)
    (past : (Activity.shutdown context closing).isFlushing = false) :
    workAfter (.shutdown context) (closingStep (session.moment finding)
        (session.cancelled.contains context) .running session.topic closing) <
      4 * session.topic.batcher.pending.length + (Activity.shutdown context closing).work := by
  cases closing with
  | begin =>
      have sticky : session.topic.sticky = some .topicShutdown := of_decide_eq_true ending
      simp [closingStep, Closing.step, closable, beginShutdown, sticky]
  | flushing flush => contradiction
  | calling => simp [Activity.isWaiting, closingStep, Closing.step, Next.staysAt] at awake

end Turns

/-! ## Calls that go on or are answered -/

section Calls

variable {session : Session}

theorem Session.HasAnswered.mono
    {after : Session}
    {send : Send}
    {happened : List Record}
    (records : after.records = session.records ++ happened)
    (answered : session.HasAnswered send) : after.HasAnswered send := by
  simp only [Session.HasAnswered, Session.rejected, Session.returned, records,
    List.filterMap_append, List.mem_append]
  exact answered.imp (fun ⟨error, member⟩ => ⟨error, .inl member⟩)
    fun ⟨id, result, member⟩ => ⟨id, result, .inl member⟩

theorem exists_senderResult_eq (error : Error) :
    ∃ told, senderResult (.error error) = .error told := by
  cases error <;> exact ⟨_, rfl⟩

/-- A call that comes to its end is answered. -/
theorem Sender.records_of_done
    (send : Send)
    {sender : Sender}
    {moment : Moment}
    {cancelled : Bool}
    {topic : Topic}
    {result : Outcome Unit}
    (done : (sender.step moment cancelled topic).next = .done result) :
    (∃ error, .rejected send error ∈ sender.records send (.done result)) ∨
      ∃ id, .returned send id result ∈ sender.records send (.done result) := by
  cases sender with
  | sending message =>
      unfold Sender.step at done
      dsimp only at done
      split at done <;> cases done
      exact .inl ⟨_, .head _⟩
  | checking message =>
      unfold Sender.step at done
      dsimp only at done
      split at done
      next => cases done; exact .inl ⟨_, .head _⟩
      next => split at done <;> cases done; exact .inl ⟨_, .head _⟩
  | adding task =>
      cases task with
      | awaiting id => exact .inr ⟨id, .head _⟩
      | entering size envelope =>
          simp only [Sender.step, Batcher.Adding.step] at done
          split at done
          next => cases done; exact .inl ⟨_, .head _⟩
          next =>
            split at done <;> cases done
            next error _ =>
              obtain ⟨told, same⟩ := exists_senderResult_eq error
              exact .inl ⟨told, same ▸ .head _⟩

theorem step_of_found
    {place : Nat}
    {activity : Activity}
    (found : session.activities[place]? = some activity)
    (finding : Finding) :
    session.step (.turn place finding) =
      session.turn finding (session.activities.eraseIdx place) activity := by
  rw [Session.step, found]

/-- When a task takes a turn, every call goes on or is answered. -/
theorem Session.Keeps.turn
    (finding : Finding)
    {activity : Activity}
    {others : List Activity}
    (split : session.activities.Perm (activity :: others))
    {send : Send}
    (keeps : session.Keeps send) : (session.turn finding others activity).Keeps send := by
  rcases keeps with atWork | answered
  · obtain ⟨sender, member⟩ := mem_senders.mp atWork
    rcases List.mem_cons.mp (split.mem_iff.mp member) with rfl | elsewhere
    · have goesOn {later : Sender}
          (goes : later ∈ (sender.step (session.moment finding)
            (session.cancelled.contains send.context) session.topic).next.tasks) :
          .sender send later ∈
            (session.turn finding others (.sender send sender)).activities :=
        List.mem_append_right _ (List.mem_append_left _ (List.mem_map_of_mem goes))
      have shows {record : Record}
          (shown : record ∈ sender.records send (sender.step (session.moment finding)
            (session.cancelled.contains send.context) session.topic).next) :
          record ∈ (session.turn finding others (.sender send sender)).records :=
        List.mem_append_right _ (List.mem_append_right _ shown)
      cases next : (sender.step (session.moment finding)
        (session.cancelled.contains send.context) session.topic).next with
      | «continue» later | wait later =>
          exact .inl (mem_senders.mpr ⟨later, goesOn (next ▸ .head _)⟩)
      | done result =>
          rw [next] at shows
          rcases sender.records_of_done send next with ⟨error, shown⟩ | ⟨id, shown⟩
          · exact .inr (.inl ⟨error, List.mem_filterMap.mpr ⟨_, shows shown, rfl⟩⟩)
          · exact .inr (.inr ⟨id, result, List.mem_filterMap.mpr ⟨_, shows shown, rfl⟩⟩)
    · refine .inl (mem_senders.mpr ⟨sender, ?_⟩)
      cases activity <;> simp [Session.turn, Session.resume, elsewhere]
  · refine .inr ?_
    cases activity <;> exact answered.mono rfl

end Calls

/-! ## Runs that come to rest -/

/-- The handlers that the batcher has are those of the topic. -/
theorem exists_handler_of_batching
    {session : Session}
    {handling : Batcher.Handling Envelope}
    (member : .handler handling ∈ session.batching.activities) :
    ∃ handler, .handler handler ∈ session.activities := by
  obtain ⟨activity, active, shown⟩ := List.mem_filterMap.mp member
  unfold Activity.onBatcher? at shown
  split at shown <;> cases shown
  exact ⟨_, active⟩

section Runs

variable (setup : Setup) (moves : List Move)

theorem concluded_sessionOf : Concluded (sessionOf setup moves) := by
  induction moves using List.reverseRecOn with
  | nil => exact .create setup
  | append_singleton earlier move hypothesis =>
      rw [sessionOf_append_singleton]
      exact hypothesis.change (change_step _ move) (shutting_sessionOf setup earlier)
        (Batcher.noticed_of_reached (reached_batching setup earlier))
        (Batcher.isShutdown_of_changes (changes_batching_step _ move))

theorem closes_le_of_change {before after : Session} (change : Change before after) :
    before.closes ≤ after.closes := by
  cases change <;> simp

/-- What is over stays so. -/
theorem Session.IsOver.step
    {session : Session}
    (isOver : session.IsOver)
    (move : Move) : (session.step move).IsOver where
  expired := (calls_of_change (change_step session move) isOver.expired).2
  down := Batcher.isShutdown_of_changes (changes_batching_step session move) isOver.down
  closes := Nat.lt_of_lt_of_le isOver.closes (closes_le_of_change (change_step session move))

variable {setup moves} (isOver : (sessionOf setup moves).IsOver)

include isOver

theorem isEnding_of_isOver : (sessionOf setup moves).isEnding = true := by
  have shutting := shutting_sessionOf setup moves
  have once := shutting.once
  have closes := isOver.closes
  rw [shutting.began] at once
  exact Bool.toNat_eq_one.mp (by have := Bool.toNat_le (sessionOf setup moves).isEnding; omega)

/-- The only shutdown that flushes has flushed. -/
theorem isFlushing_of_isOver
    {activity : Activity}
    (member : activity ∈ (sessionOf setup moves).activities) : activity.isFlushing = false := by
  have shutting := shutting_sessionOf setup moves
  have once := shutting.once
  have closes := isOver.closes
  rw [shutting.began, isEnding_of_isOver isOver] at once
  have none : (sessionOf setup moves).activities.countP Activity.isFlushing = 0 := by
    simp only [Bool.toNat_true] at once
    omega
  exact Bool.eq_false_iff.mpr (List.countP_eq_zero.mp none activity member)

/-- Whichever task takes a turn, less is left to do unless the task waits. -/
theorem work_step_lt
    {place : Nat}
    {activity : Activity}
    {finding : Finding}
    (found : (sessionOf setup moves).activities[place]? = some activity)
    (awake : activity.isWaiting (sessionOf setup moves) = false)
    (settled : finding.settled = .running) :
    ((sessionOf setup moves).step (.turn place finding)).work < (sessionOf setup moves).work := by
  have prompt := Batcher.prompt_of_reached (reached_batching setup moves)
  have isEnding := isEnding_of_isOver isOver
  have past := isFlushing_of_isOver isOver (List.mem_of_getElem? found)
  have whole := workOf_perm (perm_eraseIdx found)
  rw [step_of_found found, Session.work.eq_1 (sessionOf setup moves), whole, workOf,
    ← Nat.add_assoc]
  cases activity with
  | sender send sender =>
      rw [Session.turn, work_resume]
      exact Nat.add_lt_add_right (Sender.workAfter_lt awake isEnding isOver.down) _
  | handler handler =>
      rw [Session.turn, work_resume, settled]
      exact Nat.add_lt_add_right (Handler.workAfter_lt isOver.expired ..) _
  | timer wakeAt =>
      rw [Session.turn, work_resume]
      exact Nat.add_lt_add_right (timer_workAfter_lt awake isOver.down fun free =>
        prompt.drained (prompt.built ▸ free) isOver.down) _
  | shutdown context closing =>
      rw [Session.turn, work_resume, settled]
      exact Nat.add_lt_add_right (shutdown_workAfter_lt awake isEnding past) _

/-- At rest, nothing is left to do: no message is pending, and no call is at work. -/
theorem nobody_of_isResting (resting : (sessionOf setup moves).IsResting) :
    Batcher.Quiet (sessionOf setup moves).batching ∧ (sessionOf setup moves).senders = [] := by
  have reached := reached_batching setup moves
  have noHandler (handler : Handler) : .handler handler ∉ (sessionOf setup moves).activities := by
    intro member
    obtain ⟨batch, phase, -, waits⟩ := calling_of_isWaiting (resting _ member)
    rw [isOver.expired, Retry.step_running_of_cancelled] at waits
    contradiction
  have quiet : Batcher.Quiet (sessionOf setup moves).batching := by
    refine Batcher.quiet_of_nobody reached isOver.down fun handling shown => ?_
    obtain ⟨handler, member⟩ := exists_handler_of_batching shown
    exact noHandler handler member
  refine ⟨quiet, List.eq_nil_iff_forall_not_mem.mpr fun send atWork => ?_⟩
  obtain ⟨sender, member⟩ := mem_senders.mp atWork
  obtain ⟨id, rfl, unanswered, -, -⟩ := awaiting_of_isWaiting (resting _ member)
  obtain ⟨result, given⟩ := quiet.exists_answer reached
    (List.mem_filterMap.mpr ⟨_, member, rfl⟩ :
      .caller send.context (.awaiting id) ∈ (sessionOf setup moves).batching.activities)
  exact absurd (unanswered.symm.trans given) (by simp)

omit isOver in
/-- Every turn in a busy run leaves less to do, and no call gets lost. -/
theorem busy_run
    {later : List Move}
    (moves : List Move)
    (isOver : (sessionOf setup moves).IsOver)
    (busy : (sessionOf setup moves).Busy later) :
    ((sessionOf setup moves).run later).IsOver ∧
      later.length + ((sessionOf setup moves).run later).work ≤ (sessionOf setup moves).work ∧
        ∀ send, (sessionOf setup moves).Keeps send →
          ((sessionOf setup moves).run later).Keeps send := by
  induction later generalizing moves with
  | nil => exact ⟨isOver, by simp [Session.run], fun _ => id⟩
  | cons move rest hypothesis =>
      cases busy with
      | @turn session place activity finding later found awake settled goesOn =>
          have less := work_step_lt isOver found awake settled
          have still := isOver.step (.turn place finding)
          rw [← sessionOf_append_singleton] at still goesOn less
          obtain ⟨last, bound, keeps⟩ := hypothesis (moves ++ [.turn place finding]) still goesOn
          have run : (sessionOf setup moves).run (.turn place finding :: rest) =
              (sessionOf setup (moves ++ [.turn place finding])).run rest := by
            rw [sessionOf_append_singleton]
            rfl
          rw [run, List.length_cons]
          refine ⟨last, by omega, fun send kept => keeps send ?_⟩
          rw [sessionOf_append_singleton, step_of_found found]
          exact kept.turn finding (perm_eraseIdx found)

omit isOver in
/-- Tasks that take turns come to rest. -/
theorem exists_busy_isResting
    (moves : List Move)
    (isOver : (sessionOf setup moves).IsOver) :
    ∃ later, (sessionOf setup moves).Busy later ∧
      ((sessionOf setup moves).run later).IsResting := by
  induction left : (sessionOf setup moves).work using Nat.strongRecOn generalizing moves with
  | ind work hypothesis =>
      by_cases resting : (sessionOf setup moves).IsResting
      · exact ⟨[], .rest _, resting⟩
      · obtain ⟨place, activity, found, awake⟩ := exists_awake resting
        have still := isOver.step (.turn place {})
        have less : ((sessionOf setup moves).step (.turn place {})).work < work :=
          left ▸ work_step_lt isOver found awake rfl
        rw [← sessionOf_append_singleton] at still less
        obtain ⟨later, busy, rests⟩ := hypothesis _ less (moves ++ [.turn place {}]) still rfl
        rw [sessionOf_append_singleton] at busy rests
        exact ⟨.turn place {} :: later, .turn found awake rfl busy, rests⟩

end Runs

/-- A shutdown that has closed the driver has shut the batcher down, unless it has not flushed. -/
theorem isOver_of_closed
    (setup : Setup)
    (moves : List Move)
    {ending : Nat × Except Fault Unit × Outcome Unit}
    (closed : ending ∈ (sessionOf setup moves).closed)
    (flushed : ending.1 ∉ (sessionOf setup moves).skipped) : (sessionOf setup moves).IsOver := by
  have concluded := concluded_sessionOf setup moves
  obtain ⟨began, closes⟩ := concluded.closed ending closed
  obtain ⟨expired, down | skips⟩ := concluded.closes closes
  · exact ⟨expired, down, closes⟩
  · obtain ⟨other, skipped⟩ := List.exists_mem_of_ne_nil _ skips
    have single : (sessionOf setup moves).began.length ≤ 1 := by
      rw [(shutting_sessionOf setup moves).began]
      exact Bool.toNat_le _
    obtain ⟨only, whole⟩ :=
      List.length_eq_one_iff.mp (Nat.le_antisymm single (List.length_pos_of_mem began))
    have alsoBegan := (concluded.skipped other skipped).1
    rw [whole, List.mem_singleton] at began alsoBegan
    exact absurd (began ▸ alsoBegan ▸ skipped) flushed

/-- A shutdown that comes after another has begun is refused in its first turn, which does nothing
else. Once one that has begun to flush, as it does unless its context is cancelled, has closed the
driver, tasks come to rest by themselves, and then every call that was at work has been answered. -/
theorem answered_after_shutdown (setup : Setup) (moves : List Move) :
    let session := sessionOf setup moves
    (∀ context ∈ session.skipped, context ∈ session.cancelled) ∧
      (∀ refusal ∈ session.refused, refusal.2 = .topicShutdown ∧ session.began ≠ []) ∧
      (∀ place context finding, session.activities[place]? = some (.shutdown context .begin) →
        session.began ≠ [] → session.step (.turn place finding) =
          { session with
            activities := session.activities.eraseIdx place
            records := session.records ++ [.refused context .topicShutdown] }) ∧
      ∀ ending ∈ session.closed, ending.1 ∉ session.skipped →
        session.topic.batcher.isShutdown = true ∧
        (session.topic.batcher.pending ≠ [] →
          ∃ handler, .handler handler ∈ session.activities) ∧
        (∀ later, session.Busy later →
          let after := session.run later
          later.length ≤ session.work ∧
            (after.IsResting → Batcher.Quiet after.batching ∧
              ∀ send ∈ session.senders, after.HasAnswered send)) ∧
        ∃ later, session.Busy later ∧ (session.run later).IsResting := by
  intro session
  have concluded : Concluded session := concluded_sessionOf setup moves
  have shutting : Shutting session := shutting_sessionOf setup moves
  refine ⟨fun context member => (concluded.skipped context member).2,
    fun refusal member => (shutting.refused refusal member).imp_right shutting.isEnding_iff.mp,
    fun place context finding found begun =>
      step_begin_of_isEnding found (shutting.isEnding_iff.mpr begun) finding,
    fun ending closed flushed => ?_⟩
  have isOver : session.IsOver := isOver_of_closed setup moves closed flushed
  refine ⟨isOver.down, fun pending => ?_, fun later busy => ?_,
    exists_busy_isResting moves isOver⟩
  · obtain ⟨handling, shown⟩ :=
      Batcher.exists_handler_of_pending (reached_batching setup moves) isOver.down pending
    exact exists_handler_of_batching shown
  · obtain ⟨still, bound, keeps⟩ := busy_run moves isOver busy
    refine ⟨Nat.le_trans (Nat.le_add_right ..) bound, fun resting => ?_⟩
    have after : session.run later = sessionOf setup (moves ++ later) := List.foldl_append.symm
    rw [after] at still keeps resting ⊢
    obtain ⟨quiet, nobody⟩ := nobody_of_isResting still resting
    refine ⟨quiet, fun send atWork => (keeps send (.inl atWork)).resolve_left ?_⟩
    rw [nobody]
    exact List.not_mem_nil

/-- A shutdown that is cancelled while it flushes leaves nobody behind. -/
example :
    let session := sessionOf { batching := { minSize := 2 } }
      [.send 0 { body := [1] }, .turn 0 {}, .turn 0 {}, .turn 0 {}, .shutdown 7, .turn 0 {},
        .turn 0 {}, .cancel 7, .turn 1 {}, .turn 0 {}, .turn 0 { settled := .returned (.ok ()) }]
    session.closed.map Prod.fst = [7] ∧ session.skipped = [] ∧ session.senders.length = 1 ∧
      (session.run (List.replicate 5 (.turn 0 {}))).returned.length = 1 := by
  decide +kernel

/-- At rest nobody is answered, whatever the tasks do, as long as the driver comes to no answer. -/
theorem not_hasAnswered_of_isResting
    {session : Session}
    (resting : session.IsResting)
    (rejected : session.rejected.length = 0)
    (returned : session.returned.length = 0)
    (send : Send)
    {later : List Move}
    (idle : ∀ move ∈ later, move.IsIdle) : ¬ (session.run later).HasAnswered send := by
  obtain ⟨activities, -, run⟩ := resting.run_turns later idle
  rw [run]
  rintro (⟨error, member⟩ | ⟨id, result, member⟩)
  · exact Nat.ne_of_gt (List.length_pos_of_mem member) rejected
  · exact Nat.ne_of_gt (List.length_pos_of_mem member) returned

/-- A shutdown that does not flush leaves a message that waits for company to wait for ever, and one
that comes too late is over while the first still waits for the driver. -/
theorem stranded_by_shutdown :
    (let session := sessionOf { batching := { minSize := 2 } }
      [.send 0 { body := [1] }, .turn 0 {}, .turn 0 {}, .turn 0 {}, .cancel 7, .shutdown 7,
        .turn 0 {}, .turn 0 { contextFirst := true }, .turn 0 { settled := .returned (.ok ()) }]
    session.closed.map Prod.fst = [7] ∧ session.topic.batcher.isShutdown = false ∧
      session.topic.batcher.pending.length = 1 ∧ session.topic.batcher.handlers = 0 ∧
      session.senders = [{ number := 0, context := 0, message := { body := [1] } }] ∧
      ∀ send later, (∀ move ∈ later, move.IsIdle) → ¬ (session.run later).HasAnswered send) ∧
    (let session := sessionOf {}
      [.send 0 { body := [1] }, .turn 0 {}, .turn 0 {}, .turn 0 {}, .turn 0 {}, .turn 0 {},
        .shutdown 0, .turn 0 {}, .turn 0 {}, .turn 0 {}, .turn 0 {}, .shutdown 1, .turn 0 {}]
    session.refused.map Prod.fst = [1] ∧
      session.senders = [{ number := 0, context := 0, message := { body := [1] } }] ∧
      ∀ send later, (∀ move ∈ later, move.IsIdle) → ¬ (session.run later).HasAnswered send) := by
  refine ⟨⟨?_, ?_, ?_, ?_, ?_, fun send later idle => ?rest⟩, ?_, ?_, fun send later idle => ?wait⟩
  case rest | wait =>
    exact not_hasAnswered_of_isResting (by decide +kernel) (by decide +kernel) (by decide +kernel)
      send idle
  all_goals decide +kernel

end Topic
end PubSub
