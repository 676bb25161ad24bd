import PubSub.Proofs.Retry.Groups
import PubSub.Proofs.Topic.Ending
import PubSub.Proofs.Topic.Sending

/-!
# The permanent error of a topic

A topic keeps the first permanent error that its driver fails with, until it is shut down, and never
that of a cancelled context. `Sets` lists the moves that change which error is kept. While one is
kept, a call that begins is answered with it at once, so its message comes neither to the batcher
nor to the driver.
-/

namespace PubSub
namespace Topic

attribute [local simp] List.filterMap_cons

/-! ## One move -/

/-- The moves that change which error a topic keeps. -/
inductive Session.Sets (session : Session) : Move → Error → Prop
  /-- The driver has failed with its first permanent error. -/
  | failed {place failures : Nat} {finding : Finding} {batch : List (Entry Envelope)}
      {fault : Fault}
      (found : session.activities[place]? = some (.handler (.calling batch (.calling failures))))
      (settled : finding.settled = .returned (.error fault))
      (live : session.topic.backgroundEnded = false)
      (permanent : session.topic.classification.isRetryable fault = false)
      (untroubled : session.topic.sticky = none) :
      Sets session (.turn place finding)
        (.driver (session.topic.classification.codeOf fault) fault)
  /-- The first shutdown begins. -/
  | ending {place context : Nat} {finding : Finding}
      (found : session.activities[place]? = some (.shutdown context .begin))
      (first : session.topic.sticky ≠ some .topicShutdown) :
      Sets session (.turn place finding) .topicShutdown

theorem sticky_sender
    (moment : Moment)
    (cancelled : Bool)
    (topic : Topic)
    (sender : Sender) : (sender.step moment cancelled topic).state.sticky = topic.sticky := by
  unfold Sender.step
  split
  next => split <;> rfl
  next =>
    split
    next => rfl
    next => split <;> rfl
  next => rfl

theorem sticky_closing
    (moment : Moment)
    (cancelled : Bool)
    (answer : Answer (Except Fault Unit))
    (topic : Topic)
    {closing : Closing}
    (begun : closing ≠ .begin) :
    (closingStep moment cancelled answer topic closing).state.sticky = topic.sticky := by
  cases closing with
  | begin => contradiction
  | flushing flush =>
      simp only [closingStep, Closing.step, closable]
      split
      next => rfl
      next => split <;> (try split) <;> rfl
  | calling => cases answer <;> rfl

section Moves

variable (session : Session) (place : Nat) (finding : Finding)

/-- A turn of a handler changes the error that is kept only if its driver call has failed. -/
theorem sticky_turn_handler
    {handler : Handler}
    (found : session.activities[place]? = some (.handler handler)) :
    let after := handler.step (session.moment finding) finding.settled session.topic
    after.state.sticky = session.topic.sticky ∨
      ∃ error, after.state.sticky = some error ∧ session.Sets (.turn place finding) error := by
  cases handler with
  | announcing batch => exact .inl rfl
  | answering left result => exact .inl rfl
  | calling batch phase =>
      cases stepped : phase.step session.topic.plan session.topic.backgroundEnded
        (session.moment finding) finding.settled with
      | finish result =>
          cases result with
          | ok value => exact .inl (by simp [Handler.step, stepped])
          | error error =>
              rcases Retry.permanent_of_step_eq_error stepped with
                rfl | ⟨failures, fault, rfl, settled, live, permanent, rfl⟩
              · exact .inl (by simp [Handler.step, stepped, Handler.failed])
              · cases sticky : session.topic.sticky with
                | none =>
                    refine .inr ⟨_, ?_, .failed found settled live permanent sticky⟩
                    simp [Handler.step, stepped, Handler.failed, recordFailure_driver, sticky]
                    rfl
                | some error =>
                    refine .inl ?_
                    simp [Handler.step, stepped, Handler.failed, recordFailure_driver, sticky]
      | _ => exact .inl (by simp [Handler.step, stepped])

/-- The error that is kept changes only when the driver fails for the first time, and when a
shutdown begins. -/
theorem sticky_step (move : Move) :
    (session.step move).topic.sticky = session.topic.sticky ∨
      ∃ error, (session.step move).topic.sticky = some error ∧ session.Sets move error := by
  cases move with
  | send context message | shutdown context =>
      rw [Session.step]
      split <;> exact .inl rfl
  | cancel context | elapse nanos => exact .inl rfl
  | abandon place =>
      rw [Session.step]
      split
      next => exact .inl rfl
      next => split <;> exact .inl rfl
  | drop =>
      rw [Session.step]
      split <;> exact .inl rfl
  | turn place finding =>
      rw [Session.step]
      cases found : session.activities[place]? with
      | none => exact .inl rfl
      | some activity =>
          cases activity with
          | sender send sender => exact .inl (sticky_sender ..)
          | handler handler => exact sticky_turn_handler session place finding found
          | timer wakeAt => exact .inl rfl
          | shutdown context closing =>
              by_cases begun : closing = .begin
              · subst begun
                by_cases late : session.topic.sticky = some .topicShutdown
                · refine .inl ?_
                  simp [Session.turn, Session.resume, closingStep, Closing.step, closable,
                    beginShutdown, late]
                · refine .inr ⟨_, ?_, .ending found late⟩
                  simp [Session.turn, Session.resume, closingStep, Closing.step, closable,
                    beginShutdown, late]
              · exact .inl (sticky_closing _ _ _ _ begun)

/-- An error that is kept is not replaced but by that of a shutdown. -/
theorem sticky_run
    {error : Error}
    (kept : session.topic.sticky = some error ∨ session.topic.sticky = some .topicShutdown)
    (later : List Move) :
    (session.run later).topic.sticky = some error ∨
      (session.run later).topic.sticky = some .topicShutdown := by
  induction later generalizing session with
  | nil => exact kept
  | cons move rest hypothesis =>
      refine hypothesis (session.step move) ?_
      rcases sticky_step session move with same | ⟨other, set, reason⟩
      · rwa [same]
      · cases reason with
        | failed _ _ _ _ untroubled => simp [untroubled] at kept
        | ending => exact .inr set

end Moves

/-! ## The first failure -/

/-- The permanent error that a driver call of a batch has failed with. -/
@[simp] def Record.failure? (classification : Classification) : Record → Option Error
  | .answered _ (.returned (.error fault)) =>
      if classification.isRetryable fault then none
      else some (.driver (classification.codeOf fault) fault)
  | _ => none

/-- The permanent errors that driver calls have failed with, oldest first. -/
@[simp] def Session.failures (session : Session) : List Error :=
  session.records.filterMap (Record.failure? session.topic.classification)

@[simp] theorem failure?_comp_batching (classification : Classification) :
    Record.failure? classification ∘ (.batching : Batcher.Record Envelope → Record) =
      fun _ => none := rfl

/-- The error that is kept is the first that the driver has failed with, or that of a shutdown. -/
structure Blamed (session : Session) : Prop where
  first : ∀ error, session.topic.sticky = some error →
    error = .topicShutdown ∨ session.failures.head? = some error
  untroubled : session.topic.backgroundEnded = false → session.topic.sticky = none →
    session.failures = []

namespace Blamed

variable {before after : Session}

theorem create (setup : Setup) : Blamed setup.session where
  first _ kept := nomatch kept
  untroubled _ _ := rfl

/-- The driver may fail, but not so that its error is kept. -/
theorem mono
    (blamed : Blamed before)
    (sticky : after.topic.sticky = before.topic.sticky)
    (background : after.topic.backgroundEnded = false → before.topic.backgroundEnded = false ∧
      after.failures = before.failures)
    (failures : before.failures <+: after.failures) : Blamed after where
  first error kept := by
    refine (blamed.first error (sticky ▸ kept)).imp_right fun isFirst => ?_
    obtain ⟨others, same⟩ := failures
    rw [← same, List.head?_append, isFirst]
    rfl
  untroubled live quiet := by
    obtain ⟨earlier, same⟩ := background live
    rw [same]
    exact blamed.untroubled earlier (sticky ▸ quiet)

/-- Nothing has happened to the driver calls. -/
theorem congr
    (blamed : Blamed before)
    (sticky : after.topic.sticky = before.topic.sticky)
    (background : after.topic.backgroundEnded = before.topic.backgroundEnded)
    (failures : after.failures = before.failures) : Blamed after :=
  blamed.mono sticky (fun live => ⟨background ▸ live, failures⟩) (failures ▸ List.prefix_rfl)

/-- The driver has failed with a permanent error, which is kept if it is the first one. -/
theorem troubled
    (blamed : Blamed before)
    (live : before.topic.backgroundEnded = false)
    {error : Error}
    (sticky : after.topic.sticky = before.topic.sticky.or (some error))
    (failures : after.failures = before.failures ++ [error]) : Blamed after where
  first other kept := by
    rw [failures, List.head?_append]
    cases earlier : before.topic.sticky with
    | none =>
        rw [sticky, earlier] at kept
        rw [blamed.untroubled live earlier]
        exact .inr kept
    | some known =>
        rw [sticky, earlier] at kept
        refine (blamed.first other (earlier.trans kept)).imp_right fun isFirst => ?_
        rw [isFirst]
        rfl
  untroubled _ quiet := by
    rw [sticky] at quiet
    exact nomatch (Option.or_eq_none_iff.mp quiet).2

theorem change (change : Change before after) (blamed : Blamed before) : Blamed after := by
  cases change with
  | failed split live permanent same =>
      subst same
      exact blamed.troubled live rfl (by simp [permanent])
  | @overruled batch failures fault others split expired =>
      exact blamed.mono rfl (fun live => absurd (expired.symm.trans live) (by simp))
        ⟨_, List.filterMap_append.symm⟩
  | began => exact ⟨fun _ kept => .inl (Option.some.inj kept).symm, fun _ quiet => nomatch quiet⟩
  | ended | skipped | dropped =>
      exact blamed.mono rfl (fun live => nomatch live) (by simp [endBackground])
  | crashed split reason =>
      refine blamed.congr rfl rfl ?_
      rcases reason with ⟨info, rfl⟩ | ⟨fault, rfl, transient⟩
      · simp
      · simp [transient]
  | retried split live transient => exact blamed.congr rfl rfl (by simp [transient])
  | passed | checked | resumed | called | arrived | left | reordered | cancelled | elapsed =>
      exact blamed.congr rfl rfl rfl
  | rejected | entered | returned | announced | sent | succeeded | aborted | served | refused
  | flushed | closed => exact blamed.congr rfl rfl (by simp)

end Blamed

theorem blamed_sessionOf (setup : Setup) (moves : List Move) : Blamed (sessionOf setup moves) :=
  sessionOf_induction (.create setup) .change moves

/-! ## Calls that begin later -/

/-- Whether the call with this number has not yet begun: it is still to come, or it has not yet
looked at the error that the topic keeps. -/
def Session.Unbegun (session : Session) (number : Nat) : Prop :=
  session.sends ≤ number ∨
    ∃ send message, send.number = number ∧ .sender send (.sending message) ∈ session.activities

/-- The call with this number does not get past the error that the topic keeps. -/
structure Barred (number : Nat) (kept : Error) (session : Session) : Prop where
  senders : ∀ send sender, .sender send sender ∈ session.activities → send.number = number →
    ∃ message, sender = .sending message
  entered : ∀ send id, (send, id) ∈ session.entered → send.number ≠ number
  rejected : ∀ send error, (send, error) ∈ session.rejected → send.number = number →
    error = kept ∨ error = .topicShutdown

/-- There is at most one of a kind. -/
theorem eq_of_countP_le_one {Element : Type}
    {kind : Element → Bool}
    {elements : List Element}
    (single : elements.countP kind ≤ 1)
    {first second : Element}
    (isFirst : first ∈ elements ∧ kind first = true)
    (isSecond : second ∈ elements ∧ kind second = true) : first = second := by
  rw [← List.mem_filter] at isFirst isSecond
  rw [List.countP_eq_length_filter] at single
  generalize elements.filter kind = same at isFirst isSecond single
  match same, single with
  | [], _ => contradiction
  | [_], _ => exact (List.mem_singleton.mp isFirst).trans (List.mem_singleton.mp isSecond).symm

theorem Session.Unbegun.barred
    {session : Session}
    {number : Nat}
    (unbegun : session.Unbegun number)
    (placed : Placed session)
    (carried : Carried session)
    (kept : Error) : Barred number kept session := by
  have single := placed.single number
  have known := placed.known number
  rw [Session.places] at single known
  have isEntered {send : Send} {id : Nat} (entered : (send, id) ∈ session.entered)
      (same : send.number = number) : 0 < session.entered.countP (·.1.number == number) :=
    List.countP_pos_iff.mpr ⟨_, entered, beq_iff_eq.mpr same⟩
  have isRejected {send : Send} {error : Error} (rejected : (send, error) ∈ session.rejected)
      (same : send.number = number) : 0 < session.rejected.countP (·.1.number == number) :=
    List.countP_pos_iff.mpr ⟨_, rejected, beq_iff_eq.mpr same⟩
  have noneElsewhere : session.entered.countP (·.1.number == number) = 0 ∧
      session.rejected.countP (·.1.number == number) = 0 := by
    rcases unbegun with later | ⟨send, message, same, waits⟩
    · omega
    · have here : 0 < session.activities.countP (Activity.isEntering number) :=
        List.countP_pos_iff.mpr ⟨_, waits, beq_iff_eq.mpr same⟩
      omega
  refine ⟨fun send sender member same => ?_, fun send id entered same => ?_,
    fun send error rejected same => ?_⟩
  · have isEntering : (Activity.sender send sender).isEntering number = true := by
      cases carried.senders send sender member with
      | awaiting entered =>
          have some := isEntered entered same
          omega
      | _ => exact beq_iff_eq.mpr same
    rcases unbegun with later | ⟨other, message, otherSame, waits⟩
    · have some : 0 < session.activities.countP (Activity.isEntering number) :=
        List.countP_pos_iff.mpr ⟨_, member, isEntering⟩
      omega
    · have first : session.activities.countP (Activity.isEntering number) ≤ 1 := by omega
      cases eq_of_countP_le_one first ⟨member, isEntering⟩ ⟨waits, beq_iff_eq.mpr otherSame⟩
      exact ⟨message, rfl⟩
  · have some := isEntered entered same
    omega
  · have some := isRejected rejected same
    omega

namespace Barred

variable {number : Nat} {kept : Error} {before after : Session}

/-- The call stays where it is, or is gone. -/
theorem congr
    (barred : Barred number kept before)
    (senders : ∀ send sender, .sender send sender ∈ after.activities →
      .sender send sender ∈ before.activities)
    (entered : after.entered = before.entered)
    (rejected : after.rejected = before.rejected) : Barred number kept after where
  senders send sender member := barred.senders send sender (senders send sender member)
  entered := by rw [entered]; exact barred.entered
  rejected := by rw [rejected]; exact barred.rejected

/-- A call that is past the error is another. -/
theorem number_ne
    (barred : Barred number kept before)
    {send : Send}
    {sender : Sender}
    {others : List Activity}
    (split : before.activities.Perm (.sender send sender :: others))
    (past : ∀ message, sender ≠ .sending message) : send.number ≠ number := fun same =>
  have ⟨message, same⟩ := barred.senders send sender (split.mem_iff.mpr (.head _)) same
  past message same

/-- Another call goes on. -/
theorem wentOn
    (barred : Barred number kept before)
    {send : Send}
    {sender later : Sender}
    {started others : List Activity}
    (split : before.activities.Perm (.sender send sender :: others))
    (past : ∀ message, sender ≠ .sending message)
    (new : ∀ activity ∈ started, activity.IsStarted)
    (activities : after.activities = started ++ .sender send later :: others)
    (entered : ∀ known id, (known, id) ∈ after.entered →
      (known, id) ∈ before.entered ∨ known = send)
    (rejected : after.rejected = before.rejected) : Barred number kept after where
  senders known sender member same := by
    rw [activities] at member
    have apart := mem_of_not_isServing (fun _ started => (new _ started).isServing) (by simp) member
    rcases List.mem_cons.mp apart with own | elsewhere
    · cases own
      exact absurd same (barred.number_ne split past)
    · exact barred.senders known sender (split.mem_iff.mpr (.tail _ elsewhere)) same
  entered known id member same := by
    rcases entered known id member with earlier | rfl
    · exact barred.entered known id earlier same
    · exact barred.number_ne split past same
  rejected := by rw [rejected]; exact barred.rejected

theorem change
    (change : Change before after)
    (ending : Ending before)
    (sticky : before.dropped = false →
      before.topic.sticky = some kept ∨ before.topic.sticky = some .topicShutdown)
    (barred : Barred number kept before) : Barred number kept after := by
  have held {send : Send} {sender : Sender} {others : List Activity}
      (split : before.activities.Perm (.sender send sender :: others)) :
      before.topic.sticky = some kept ∨ before.topic.sticky = some .topicShutdown := by
    refine sticky (Bool.eq_false_iff.mpr fun isDropped => ?_)
    exact absurd (ending.nobody isDropped _ (split.mem_iff.mpr (.head _)))
      (by simp [Activity.isCaller])
  cases change with
  | passed split untroubled =>
      have known := held split
      simp [untroubled] at known
  | called =>
      refine { barred with senders := fun send sender member same => ?_ }
      rcases List.mem_cons.mp member with new | earlier
      · cases new
        exact ⟨_, rfl⟩
      · exact barred.senders send sender earlier same
  | checked split =>
      have none : ∀ activity ∈ ([] : List Activity), activity.IsStarted := by simp
      exact barred.wentOn split (by simp) none rfl (fun _ _ => .inl) rfl
  | @entered send _ _ _ _ _ _ split new =>
      refine barred.wentOn split (by simp) new rfl (fun known id entered => ?_) (by simp)
      have cases : (known, id) ∈ before.entered ∨
          known = send ∧ id = before.topic.batcher.nextId := by simpa using entered
      exact cases.imp_right And.left
  | @rejected send sender error others split reason =>
      refine ⟨fun known sender member => barred.senders known sender (split.mem_iff.mpr
        (.tail _ member)), by simpa using barred.entered, fun known told member same => ?_⟩
      have cases : (known, told) ∈ before.rejected ∨ known = send ∧ told = error := by
        simpa using member
      rcases cases with earlier | ⟨rfl, rfl⟩
      · exact barred.rejected known told earlier same
      · obtain ⟨message, rfl⟩ := barred.senders known sender (split.mem_iff.mpr (.head _)) same
        cases reason with
        | kept isKept =>
            rw [isKept] at held
            exact (held split).imp Option.some.inj Option.some.inj
  | served split serving laterServing =>
      refine barred.congr (fun send sender member => ?_) (by simp) (by simp)
      have elsewhere := mem_of_not_isServing laterServing (by simp) member
      exact split.mem_iff.mpr (.tail _ elsewhere)
  | flushed split begun new =>
      refine barred.congr (fun send sender member => ?_) (by simp) (by simp)
      have elsewhere := mem_of_not_isServing (fun _ started => (new _ started).isServing) (by simp)
        member
      exact split.mem_iff.mpr (by simpa using elsewhere)
  | reordered same => exact barred.congr (by simp [same.mem_iff]) rfl rfl
  | left split =>
      exact barred.congr (fun _ _ member => split.mem_iff.mpr (.tail _ member)) rfl rfl
  | returned split =>
      exact barred.congr (fun _ _ member => split.mem_iff.mpr (.tail _ member)) (by simp) (by simp)
  | arrived => exact barred.congr (by simp) rfl rfl
  | cancelled | elapsed | dropped => exact { barred with }
  | announced split | sent split | retried split | resumed split | succeeded split | failed split
  | aborted split | overruled split | crashed split | began split | refused split | ended split
  | skipped split | closed split =>
      exact barred.congr (by simp [split.mem_iff]) (by simp) (by simp)

end Barred

/-! ## Runs -/

theorem dropped_of_step
    {session : Session}
    {move : Move}
    (held : (session.step move).dropped = false) : session.dropped = false := by
  have change := change_step session move
  generalize session.step move = after at change held
  cases change <;> first | exact held | contradiction

theorem dropped_of_run
    {session : Session}
    {later : List Move}
    (held : (session.run later).dropped = false) : session.dropped = false := by
  induction later generalizing session with
  | nil => exact held
  | cons move rest hypothesis => exact dropped_of_step (hypothesis held)

/-- The driver fails with errors of its own only. -/
theorem exists_driver_of_mem_failures
    {session : Session}
    {error : Error}
    (failed : error ∈ session.failures) : ∃ code fault, error = .driver code fault := by
  obtain ⟨record, -, failure⟩ := List.mem_filterMap.mp failed
  unfold Record.failure? at failure
  split at failure
  next =>
    split at failure
    next => contradiction
    next => exact ⟨_, _, (Option.some.inj failure).symm⟩
  next => contradiction

/-- A call that has not yet begun, and begins while an error is kept, is answered with it. -/
theorem step_sending
    {session : Session}
    {place : Nat}
    {send : Send}
    {message : Message}
    {error : Error}
    (found : session.activities[place]? = some (.sender send (.sending message)))
    (kept : session.topic.sticky = some error)
    (finding : Finding) :
    session.step (.turn place finding) =
      { session with
        activities := session.activities.eraseIdx place
        records := session.records ++ [.rejected send error] } := by
  simp [Session.step, found, Session.turn, Session.resume, Sender.step, kept, Sender.onBatcher,
    Sender.adding?, Sender.records, Next.tasks]

section Runs

variable (setup : Setup) (moves : List Move)

/-- As long as somebody holds the topic, it keeps an error once its driver has failed. -/
theorem exists_sticky_of_failures
    (held : (sessionOf setup moves).dropped = false)
    {error : Error}
    (failed : error ∈ (sessionOf setup moves).failures) :
    ∃ kept, (sessionOf setup moves).topic.sticky = some kept := by
  refine Option.ne_none_iff_exists'.mp fun quiet => ?_
  cases ended : (sessionOf setup moves).topic.backgroundEnded with
  | true =>
      rcases (ending_sessionOf setup moves).expired ended with isDropped | down
      · exact absurd (held.symm.trans isDropped) (by simp)
      · exact absurd (quiet.symm.trans (of_decide_eq_true down)) (by simp)
  | false =>
      rw [(blamed_sessionOf setup moves).untroubled ended quiet] at failed
      contradiction

/-- A call that is barred stays so. -/
theorem barred_run
    {number : Nat}
    {kept : Error}
    (sticky : (sessionOf setup moves).dropped = false →
      (sessionOf setup moves).topic.sticky = some kept ∨
        (sessionOf setup moves).topic.sticky = some .topicShutdown)
    (barred : Barred number kept (sessionOf setup moves))
    (later : List Move) : Barred number kept ((sessionOf setup moves).run later) := by
  induction later generalizing moves with
  | nil => exact barred
  | cons move rest hypothesis =>
      have next := barred.change (change_step _ move) (ending_sessionOf setup moves) sticky
      rw [← sessionOf_append_singleton] at next
      have goesOn := hypothesis (moves ++ [move]) (fun held => ?_) next
      · rwa [sessionOf_append_singleton] at goesOn
      · rw [sessionOf_append_singleton] at held ⊢
        exact sticky_run _ (sticky (dropped_of_step held)) [move]

/-- While an error is kept, a call that has not yet begun is answered with it, whatever is done
before it begins. -/
theorem answered_of_unbegun
    (isKept : (sessionOf setup moves).dropped = false →
      ∃ kept, (sessionOf setup moves).topic.sticky = some kept)
    {number : Nat}
    (unbegun : (sessionOf setup moves).Unbegun number)
    (later : List Move) :
    let session := sessionOf setup moves
    let after := session.run later
    (∀ send id, (send, id) ∈ after.entered → send.number ≠ number) ∧
      (∀ send told, (send, told) ∈ after.rejected → send.number = number →
        session.topic.sticky = some told ∨ told = .topicShutdown) ∧
      ∀ place send sender, after.activities[place]? = some (.sender send sender) →
        send.number = number →
        ∃ kept, after.topic.sticky = some kept ∧ ∀ finding,
          after.step (.turn place finding) =
            { after with
              activities := after.activities.eraseIdx place
              records := after.records ++ [.rejected send kept] } := by
  intro session after
  -- A topic that was dropped may keep no error, but then nobody calls it.
  let kept := session.topic.sticky.getD .topicShutdown
  have sticky (held : session.dropped = false) : session.topic.sticky = some kept := by
    obtain ⟨known, same⟩ := isKept held
    simp [kept, session, same]
  have bar : Barred number kept after :=
    barred_run setup moves (fun held => .inl (sticky held))
      (unbegun.barred (placed_sessionOf setup moves) (carried_sessionOf setup moves) kept) later
  refine ⟨bar.entered, fun send told rejected same => ?_, fun place send sender found same => ?_⟩
  · have known := bar.rejected send told rejected same
    cases quiet : session.topic.sticky with
    | none => simpa [kept, quiet] using known
    | some error => simpa [kept, quiet, eq_comm] using known
  · have member := List.mem_of_getElem? found
    obtain ⟨message, rfl⟩ := bar.senders send sender member same
    have held : after.dropped = false := by
      refine Bool.eq_false_iff.mpr fun isDropped => ?_
      have whole : Ending after := by
        have whole := ending_sessionOf setup (moves ++ later)
        rwa [sessionOf, Session.run, List.foldl_append] at whole
      exact absurd (whole.nobody isDropped _ member) (by simp [Activity.isCaller])
    rcases sticky_run session (.inl (sticky (dropped_of_run held))) later with same | same
    · exact ⟨_, same, step_sending found same⟩
    · exact ⟨_, same, step_sending found same⟩

end Runs

/-- A topic keeps the first permanent error that its driver has failed with, or that of a shutdown.
Once a call was answered with an error of the driver, every call that has not yet begun is answered
with the error that is kept, and its message comes neither to the batcher nor to the driver. -/
theorem driver_failure_answers_later_calls (setup : Setup) (moves : List Move) :
    let session := sessionOf setup moves
    (∀ error, session.topic.sticky = some error → error ≠ .canceled ∧
      (error = .topicShutdown ∨ session.failures.head? = some error)) ∧
      (session.dropped = false → session.topic.sticky = none → session.failures = []) ∧
      (∀ move, (session.step move).topic.sticky = session.topic.sticky ∨
        ∃ error, (session.step move).topic.sticky = some error ∧ session.Sets move error) ∧
      (∀ later error, session.topic.sticky = some error →
        (session.run later).topic.sticky = some error ∨
          (session.run later).topic.sticky = some .topicShutdown) ∧
      ∀ send id error, (send, id, .error error) ∈ session.returned → error ∈ session.failures →
        ∀ number, session.Unbegun number → ∀ later,
          let after := session.run later
          ¬ after.Asked number ∧
            (∀ other id, (other, id) ∈ after.entered → other.number ≠ number) ∧
            (∀ other told, (other, told) ∈ after.rejected → other.number = number →
              session.topic.sticky = some told ∨ told = .topicShutdown) ∧
            ∀ place other sender, after.activities[place]? = some (.sender other sender) →
              other.number = number →
              ∃ kept, after.topic.sticky = some kept ∧ ∀ finding,
                after.step (.turn place finding) =
                  { after with
                    activities := after.activities.eraseIdx place
                    records := after.records ++ [.rejected other kept] } := by
  intro session
  refine ⟨fun error kept => ?_, fun held quiet => ?_, sticky_step session,
    fun later error kept => sticky_run session (.inl kept) later,
    fun send id error returned failed number unbegun later => ?_⟩
  · have first := (blamed_sessionOf setup moves).first error kept
    refine ⟨?_, first⟩
    rintro rfl
    rcases first with same | isFirst
    · contradiction
    · obtain ⟨code, fault, same⟩ := exists_driver_of_mem_failures (List.mem_of_head? isFirst)
      contradiction
  · refine List.eq_nil_iff_forall_not_mem.mpr fun error failed => ?_
    obtain ⟨kept, sticky⟩ := exists_sticky_of_failures setup moves held failed
    exact absurd (quiet.symm.trans sticky) (by simp)
  · obtain ⟨entered, rejected, answered⟩ := answered_of_unbegun setup moves
      (exists_sticky_of_failures setup moves · failed) unbegun later
    refine ⟨?_, entered, rejected, answered⟩
    rintro ⟨call, -, entry, -, other, isEntered, same⟩
    exact entered other entry.id isEntered same

/-- The driver fails with the first message, so nobody asks it to send the second. -/
example :
    let session := sessionOf {}
      [.send 0 { body := [1] }, .turn 0 {}, .turn 0 {}, .turn 0 {}, .turn 0 {}, .turn 0 {},
        .turn 0 { settled := .returned (.error (.text "gone")) }, .send 0 { body := [2] },
        .turn 0 {}]
    session.rejected.map Prod.snd = [.driver .internal (.text "gone")] ∧
      session.calls.length = 1 := by
  decide +kernel

end Topic
end PubSub
