import Mathlib.Data.List.Flatten
import Mathlib.Data.List.Nodup
import PubSub.Proofs.Batch.Ordering
import PubSub.Proofs.Topic.Attempting

/-!
# What the driver has accepted

A call that has sent its message has it in one batch, and the driver was asked to send that batch
until it did. A call that was answered before its message was accepted has it in no batch. Any other
error is cancellation, or that of the driver call of the batch.

The driver is given the messages of a batch as they are. Every call has its message accepted once,
under a number of its own, and if one batch is sent after the other, then the messages that were
sent are in the order in which they were accepted.
-/

namespace PubSub
namespace Topic

attribute [local simp] List.filterMap_cons

/-! ## What the driver was given, and what it has come to -/

/-- A batch that the driver has sent. -/
@[simp] def Record.delivered? : Record → Option (List (Entry Envelope))
  | .answered batch (.returned (.ok _)) => some batch
  | _ => none

/-- A batch whose handler has come to success. -/
@[simp] def succeeded? :
    List (Entry Envelope) × Answer (Outcome Unit) → Option (List (Entry Envelope))
  | (batch, .returned (.ok _)) => some batch
  | _ => none

/-- The batches that the driver has sent, in the order in which it has. -/
@[simp] def Session.delivered (session : Session) : List (List (Entry Envelope)) :=
  session.records.filterMap Record.delivered?

@[simp] theorem sent?_comp_batching :
    Record.sent? ∘ (.batching : Batcher.Record Envelope → Record) = fun _ => none := rfl

@[simp] theorem delivered?_comp_batching :
    Record.delivered? ∘ (.batching : Batcher.Record Envelope → Record) = fun _ => none := rfl

/-- The results that the handler of a batch may come to. -/
inductive IsHandled : Answer (Outcome Unit) → Prop
  | sent : IsHandled (.returned (.ok ()))
  | canceled : IsHandled (.returned (.error .canceled))
  | failed (code : ErrorCode) (cause : Fault) : IsHandled (.returned (.error (.driver code cause)))

/-- The driver is given the messages of a batch, and the handler comes to what the driver says. -/
structure Handled (session : Session) : Prop where
  given : ∀ call ∈ session.calls, call.2 = call.1.map Entry.item
  called : ∀ call ∈ session.calls, call.1 ∈ session.batching.called
  delivered : session.delivered = session.batching.ended.filterMap succeeded?
  ended : ∀ ending ∈ session.batching.ended, IsHandled ending.2

namespace Handled

variable {before after : Session}

theorem create (setup : Setup) : Handled setup.session where
  given := by simp [Setup.session]
  called := by simp [Setup.session]
  delivered := rfl
  ended := by simp [Setup.session]

/-- Nothing was handled. -/
theorem congr
    (handled : Handled before)
    (calls : after.calls = before.calls)
    (called : before.batching.called ⊆ after.batching.called)
    (delivered : after.delivered = before.delivered)
    (ended : after.batching.ended = before.batching.ended) : Handled after where
  given := by rw [calls]; exact handled.given
  called := by rw [calls]; exact fun call member => called (handled.called call member)
  delivered := by rw [delivered, ended]; exact handled.delivered
  ended := by rw [ended]; exact handled.ended

/-- The handler of a batch has come to a result. -/
theorem came
    (handled : Handled before)
    (batch : List (Entry Envelope))
    {answer : Answer (Outcome Unit)}
    (result : IsHandled answer)
    (calls : after.calls = before.calls)
    (called : after.batching.called = before.batching.called)
    (delivered : after.delivered = before.delivered ++ (succeeded? (batch, answer)).toList)
    (ended : after.batching.ended = before.batching.ended ++ [(batch, answer)]) :
    Handled after where
  given := by rw [calls]; exact handled.given
  called := by rw [calls, called]; exact handled.called
  delivered := by
    rw [delivered, ended, List.filterMap_append, handled.delivered]
    cases result <;> rfl
  ended := by
    rw [ended]
    intro ending member
    rcases List.mem_append.mp member with earlier | new
    · exact handled.ended ending earlier
    · rw [List.mem_singleton.mp new]
      exact result

theorem change
    (change : Change before after)
    (tallied : Batcher.Tallied before.batching)
    (handled : Handled before) : Handled after := by
  have hidden {happened : List (Batcher.Record Envelope)} :=
    @filterMap_eq_nil_of_isMinor _ _ ended?_of_isMinor happened
  cases change with
  | @sent batch failures others split live =>
      have working := (perm_of_onBatcher?_eq_some split rfl).mem_iff.mpr (.head _)
      have cases {call} (member : call ∈ before.calls ++ [(batch, batch.map Entry.item)]) :
          call ∈ before.calls ∨ call = (batch, batch.map Entry.item) := by
        simpa using member
      refine ⟨fun call member => ?_, fun call member => ?_, by simpa using handled.delivered,
        by simpa using handled.ended⟩
      · rcases cases (by simpa using member) with earlier | rfl
        · exact handled.given call earlier
        · rfl
      · have still : call.1 ∈ before.batching.called := by
          rcases cases (by simpa using member) with earlier | rfl
          · exact handled.called call earlier
          · exact Batcher.called_of_working tallied working
        simpa using still
  | @succeeded batch failures others split =>
      exact handled.came batch .sent (by simp) (by simp) (by simp) (by simp)
  | @failed batch failures fault error others split live permanent same =>
      subst same
      exact handled.came batch (.failed (before.topic.classification.codeOf fault) fault) (by simp)
        (by simp) (by simp) (by simp)
  | @aborted batch phase others split expired
  | @overruled batch failures fault others split expired =>
      exact handled.came batch .canceled (by simp) (by simp) (by simp) (by simp)
  | @crashed batch failures answer others split reason =>
      have panicked : IsHandled (.returned (.error .handlerPanicked)) := .failed ..
      refine handled.came batch panicked (by simp) (by simp) ?_ (by simp)
      rcases reason with ⟨info, rfl⟩ | ⟨fault, rfl, -⟩ <;> simp
  | served _ _ _ minor | flushed _ _ _ minor | entered _ _ minor | ended _ _ _ minor
  | returned _ minor =>
      exact handled.congr (by simp) (by simp) (by simp) (by simp [hidden minor])
  | passed | checked | resumed | called | arrived | left | reordered | cancelled | elapsed
  | dropped => exact { handled with }
  | rejected | announced | retried | began | refused | skipped | closed =>
      exact handled.congr (by simp) (by simp) (by simp) (by simp)

end Handled

section Sessions

variable (setup : Setup) (moves : List Move)

theorem handled_sessionOf : Handled (sessionOf setup moves) :=
  sessionOf_induction (.create setup)
    (fun change handled =>
      handled.change change (Batcher.tallied_of_reached (reached_batching setup _)))
    moves

theorem attempting_sessionOf : Attempting (sessionOf setup moves) :=
  sessionOf_induction (.create setup)
    (fun change attempting => attempting.change change
      (Batcher.tallied_of_reached (reached_batching setup _))
      (Batcher.conserved_of_reached (reached_batching setup _)))
    moves

/-- A topic keeps its driver. -/
theorem classification_sessionOf :
    (sessionOf setup moves).topic.classification = setup.classification :=
  @sessionOf_induction (·.topic.classification = setup.classification) setup rfl
    (fun change same => by cases change <;> exact same) moves

end Sessions

/-! ## What a move has the driver send -/

/-- What a task has heard of the driver call that it waits for. -/
def Activity.heard (answer : Answer (Except Fault Unit)) : Activity → List Record
  | .handler task => task.heard answer
  | _ => []

theorem delivered?_of_effect (batch : List (Entry Envelope)) (effects : List Effect) :
    (effects.filterMap (Effect.record? batch)).filterMap Record.delivered? = [] := by
  rw [List.filterMap_filterMap, List.filterMap_eq_nil_iff]
  intro effect _
  cases effect <;> rfl

/-- A turn shows as sent what its task has heard was sent. -/
theorem delivered_turn
    (session : Session)
    (finding : Finding)
    (others : List Activity)
    (activity : Activity) :
    (session.turn finding others activity).delivered =
      session.delivered ++ (activity.heard finding.settled).filterMap Record.delivered? := by
  cases activity with
  | sender send sender =>
      have silent (next : Next Sender (Outcome Unit)) :
          (sender.records send next).filterMap Record.delivered? = [] := by
        unfold Sender.records
        split <;> rfl
      simp [Session.turn, Session.resume, Activity.heard, silent]
  | handler handler =>
      simp [Session.turn, Session.resume, Activity.heard, delivered?_of_effect]
  | timer wakeAt => simp [Session.turn, Session.resume, Activity.heard]
  | shutdown context closing =>
      have silent (next : Next Closing Closed) :
          (closingRecords context finding.settled closing next).filterMap Record.delivered? =
            [] := by
        unfold closingRecords
        split <;> first | rfl | (split <;> rfl)
      simp [Session.turn, Session.resume, Activity.heard, silent, delivered?_of_effect]

/-- As long as no driver call comes to an answer, nothing is shown as sent. -/
theorem delivered_step_of_running
    {session : Session}
    {move : Move}
    (running : ∀ place finding, move = .turn place finding → finding.settled = .running) :
    (session.step move).delivered = session.delivered := by
  cases move with
  | turn place finding =>
      have silent (activity : Activity) : activity.heard .running = [] := by
        unfold Activity.heard Handler.heard
        split <;> first | rfl | (split <;> rfl)
      rw [Session.step]
      split
      next => rfl
      next activity found =>
        rw [delivered_turn, running place finding rfl, silent, List.filterMap_nil, List.append_nil]
  | send context message | shutdown context | drop =>
      rw [Session.step]
      split <;> rfl
  | abandon place =>
      rw [Session.step]
      split
      next => rfl
      next => split <;> rfl
  | cancel context | elapse nanos => rfl

/-- A batch whose driver call has returned is shown as sent in the turn that finds it. -/
theorem delivered_step_of_returned
    {session : Session}
    {place failures : Nat}
    {batch : List (Entry Envelope)}
    {finding : Finding}
    (found : session.activities[place]? = some (.handler (.calling batch (.calling failures))))
    (returned : finding.settled = .returned (.ok ())) :
    (session.step (.turn place finding)).delivered = session.delivered ++ [batch] := by
  rw [Session.step, found]
  exact (delivered_turn ..).trans (by rw [returned]; rfl)

/-! ## Calls and their messages -/

/-- Whether the driver was asked to send the message of the call with this number. -/
def Session.Asked (session : Session) (number : Nat) : Prop :=
  ∃ call ∈ session.calls, ∃ entry ∈ call.1, ∃ send,
    (send, entry.id) ∈ session.entered ∧ send.number = number

section Carried

variable {session : Session} (carried : Carried session)

include carried

/-- What the batcher accepted was sent by a call. -/
theorem Carried.exists_entered
    {entry : Entry Envelope}
    (accepted : entry ∈ session.batching.accepted) :
    ∃ send, (send, entry.id) ∈ session.entered ∧ send.message.toEnvelope = .ok entry.item := by
  have shown : (entry.id, (.ok entry.item : Outcome Envelope)) ∈
      session.batching.accepted.map fun entry => (entry.id, .ok entry.item) :=
    List.mem_map_of_mem accepted
  rw [carried.accepted, List.mem_map] at shown
  obtain ⟨⟨send, id⟩, entered, same⟩ := shown
  cases (Prod.mk.inj same).1
  exact ⟨send, entered, (Prod.mk.inj same).2⟩

/-- Messages have their numbers in the order in which they were accepted. -/
theorem Carried.map_id_accepted :
    session.batching.accepted.map Entry.id = session.entered.map Prod.snd := by
  have same := congrArg (List.map Prod.fst) carried.accepted
  simpa only [List.map_map, Function.comp_def] using same

end Carried

section Placed

variable {session : Session} (placed : Placed session)

include placed

/-- No call is accepted twice. -/
theorem Placed.nodup_entered : (session.entered.map (·.1.number)).Nodup := by
  rw [List.nodup_iff_count_le_one]
  intro number
  have single := placed.single number
  rw [List.count, List.countP_map]
  exact Nat.le_trans (Nat.le_trans (Nat.le_add_left ..) (Nat.le_add_right ..)) single

/-- A call that is answered before its message is accepted has it accepted never. -/
theorem Placed.not_entered_of_rejected
    {send other : Send}
    {error : Error}
    {id : Nat}
    (rejected : (send, error) ∈ session.rejected)
    (entered : (other, id) ∈ session.entered) : other.number ≠ send.number := by
  intro same
  have single := placed.single send.number
  have isEntered : 0 < session.entered.countP (·.1.number == send.number) :=
    List.countP_pos_iff.mpr ⟨_, entered, beq_iff_eq.mpr same⟩
  have isRejected : 0 < session.rejected.countP (·.1.number == send.number) :=
    List.countP_pos_iff.mpr ⟨_, rejected, beq_self_eq_true _⟩
  rw [Session.places] at single
  omega

end Placed

/-- What a handler that was called with an item has come to is no word of the batcher. -/
theorem senderResult_of_isHandled
    {result : Outcome Unit}
    (handled : IsHandled (.returned result)) : senderResult result = result := by
  cases handled <;> rfl

theorem succeeded_sublist (endings : List (List (Entry Envelope) × Answer (Outcome Unit))) :
    (endings.filterMap succeeded?).Sublist (endings.map Prod.fst) := by
  induction endings with
  | nil => exact .slnil
  | cons ending rest hypothesis =>
      rw [List.filterMap_cons, List.map_cons]
      split
      next => exact hypothesis.cons _
      next batch delivered =>
        have same : ending.1 = batch := by
          unfold succeeded? at delivered
          split at delivered
          next => exact Option.some.inj delivered
          next => contradiction
        rw [same]
        exact hypothesis.cons_cons batch

/-! ## Runs -/

section Runs

variable (setup : Setup) (moves : List Move)

/-- Whatever the driver was asked to send is what calls have sent. -/
theorem exists_entered_of_mem_calls
    {call : List (Entry Envelope) × List Envelope}
    (asked : call ∈ (sessionOf setup moves).calls)
    {entry : Entry Envelope}
    (inBatch : entry ∈ call.1) :
    ∃ send, (send, entry.id) ∈ (sessionOf setup moves).entered ∧
      send.message.toEnvelope = .ok entry.item := by
  have reached := reached_batching setup moves
  have taken := (Batcher.tallied_of_reached reached).mem_taken_of_called
    ((handled_sessionOf setup moves).called call asked)
  have queued := (Batcher.conserved_of_reached reached).mem_queue.mp
    (.inl (List.mem_flatten.mpr ⟨_, taken, inBatch⟩))
  exact (carried_sessionOf setup moves).exists_entered queued.1

/-- What a call is told is what the handler of its batch has come to, or that it was cancelled. -/
theorem endedWith_of_mem_returned
    {send : Send}
    {id : Nat}
    {result : Outcome Unit}
    (returned : (send, id, result) ∈ (sessionOf setup moves).returned) :
    (∃ batch, (batch, .returned result) ∈ (sessionOf setup moves).batching.ended ∧
        id ∈ batch.map Entry.id ∧ IsHandled (.returned result)) ∨
      result = .error .canceled := by
  have told := Batcher.told_of_reached (reached_batching setup moves)
  obtain ⟨-, inner, said, rfl⟩ := (carried_sessionOf setup moves).returned _ _ _ returned
  rcases told.reason _ _ _ said with ⟨⟨batch, answer⟩, ended, outcome, has⟩ | ⟨rfl, -⟩
  · have isHandled := (handled_sessionOf setup moves).ended _ ended
    have same : answer = .returned inner := by
      rcases Batcher.resultOf?_eq_some_iff.mp outcome with same | ⟨info, panicked, -⟩
      · exact same
      · rw [panicked] at isHandled
        cases isHandled
    subst same
    rw [senderResult_of_isHandled isHandled]
    exact .inl ⟨batch, ended, List.mem_map.mpr has, isHandled⟩
  · exact .inr rfl

/-- A message that was accepted for a call is the message of this call. -/
theorem toEnvelope_of_mem_taken
    {batch : List (Entry Envelope)}
    (taken : batch ∈ (sessionOf setup moves).batching.taken)
    {entry : Entry Envelope}
    (inBatch : entry ∈ batch)
    {send : Send}
    (entered : (send, entry.id) ∈ (sessionOf setup moves).entered) :
    send.message.toEnvelope = .ok entry.item := by
  have carried := carried_sessionOf setup moves
  have conserved := Batcher.conserved_of_reached (reached_batching setup moves)
  have queued := conserved.mem_queue.mp (.inl (List.mem_flatten.mpr ⟨_, taken, inBatch⟩))
  obtain ⟨other, otherEntered, encoded⟩ := carried.exists_entered queued.1
  have same : (other, entry.id) = (send, entry.id) :=
    List.inj_on_of_nodup_map (carried.map_id_accepted ▸ conserved.nodup_accepted) otherEntered
      entered rfl
  rwa [← (Prod.mk.inj same).1]

/-- A batch that was sent has been the only one with its messages, and the driver was asked to
send it until it did. -/
theorem delivered_once
    {batch : List (Entry Envelope)}
    (ended : (batch, .returned (.ok ())) ∈ (sessionOf setup moves).batching.ended)
    {id : Nat}
    (has : id ∈ batch.map Entry.id) :
    (sessionOf setup moves).batching.taken.filter (fun other => id ∈ other.map Entry.id) =
        [batch] ∧
      ∃ faults, (∀ fault ∈ faults, setup.classification.isRetryable fault = true) ∧
        (sessionOf setup moves).attempts id =
          failedAttempts batch faults ++ attempt batch (.returned (.ok ())) := by
  have reached := reached_batching setup moves
  have taken := (Batcher.tallied_of_reached reached).mem_taken_of_ended ended
  have distinct := (Batcher.conserved_of_reached reached).nodup_taken
  rw [← List.map_id' (sessionOf setup moves).batching.taken] at distinct
  obtain ⟨faults, transient, tried⟩ := (attempting_sessionOf setup moves).delivered batch ended
  rw [classification_sessionOf] at transient
  exact ⟨Batcher.filter_hasId_eq_singleton (fun other => other) distinct taken has,
    faults, transient, tried id has⟩

/-- If one batch is sent after the other, then their messages are sent in the order in which they
were accepted. -/
theorem delivered_sublist_entered (limited : setup.batching.maxHandlers ≤ 1) :
    ((sessionOf setup moves).delivered.flatten.map Entry.id).Sublist
      ((sessionOf setup moves).entered.map Prod.snd) := by
  have single : setup.batching.handlerLimit ≤ 1 := Nat.max_le.mpr ⟨limited, Nat.le_refl 1⟩
  have inOrder := Batcher.ended_sublist_accepted (reached_batching setup moves) single
  rw [(handled_sessionOf setup moves).delivered,
    ← (carried_sessionOf setup moves).map_id_accepted]
  exact ((succeeded_sublist _).flatten.trans inOrder).map Entry.id

end Runs

/-- The message of a call that has succeeded is in one batch, which the driver was asked to send
until it did, and never again; that of a rejected call is in no driver call. With one handler,
messages are sent in the order in which they were accepted. -/
theorem sent_exactly_what_was_accepted (setup : Setup) (moves : List Move) :
    let session := sessionOf setup moves
    (∀ send id, (send, id, .ok ()) ∈ session.returned →
      (send, id) ∈ session.entered ∧
        ∃ batch,
          session.batching.taken.filter (fun other => id ∈ other.map Entry.id) = [batch] ∧
            (∃ entry ∈ batch, entry.id = id ∧ entry.item.body = send.message.body ∧
              entry.item.metadata.map (fun pair => (Text.encode pair.1, Text.encode pair.2)) =
                send.message.metadata) ∧
            ∃ faults, (∀ fault ∈ faults, setup.classification.isRetryable fault = true) ∧
              session.attempts id =
                failedAttempts batch faults ++ attempt batch (.returned (.ok ()))) ∧
      (∀ send error, (send, error) ∈ session.rejected → ¬ session.Asked send.number) ∧
      (∀ send id error, (send, id, .error error) ∈ session.returned →
        error = .canceled ∨
          ∃ batch code cause, error = .driver code cause ∧ id ∈ batch.map Entry.id ∧
            (batch, .returned (.error error)) ∈ session.batching.ended) ∧
      (∀ call ∈ session.calls, call.2 = call.1.map Entry.item ∧
        ∀ entry ∈ call.1, ∃ send, (send, entry.id) ∈ session.entered ∧
          send.message.toEnvelope = .ok entry.item) ∧
      (session.entered.map Prod.snd).Nodup ∧
      (session.entered.map (·.1.number)).Nodup ∧
      (setup.batching.maxHandlers ≤ 1 →
        (session.delivered.flatten.map Entry.id).Sublist (session.entered.map Prod.snd)) := by
  intro session
  have carried : Carried session := carried_sessionOf setup moves
  have placed : Placed session := placed_sessionOf setup moves
  have reached : Batcher.Reached setup.batching session.batching := reached_batching setup moves
  have tallied := Batcher.tallied_of_reached reached
  have conserved := Batcher.conserved_of_reached reached
  have distinct : (session.entered.map Prod.snd).Nodup :=
    carried.map_id_accepted ▸ conserved.nodup_accepted
  refine ⟨fun send id returned => ?_, ?_, fun send id error returned => ?_,
    fun call asked => ⟨(handled_sessionOf setup moves).given call asked, fun entry inBatch =>
      exists_entered_of_mem_calls setup moves asked inBatch⟩,
    distinct, placed.nodup_entered, delivered_sublist_entered setup moves⟩
  · rcases endedWith_of_mem_returned setup moves returned with ⟨batch, ended, has, -⟩ | failed
    · obtain ⟨once, attempted⟩ := delivered_once setup moves ended has
      obtain ⟨entered, -⟩ := carried.returned send id _ returned
      obtain ⟨entry, inBatch, rfl⟩ := List.mem_map.mp has
      have taken : batch ∈ session.batching.taken := tallied.mem_taken_of_ended ended
      obtain ⟨body, metadata⟩ := Message.toEnvelope_eq_ok
        (toEnvelope_of_mem_taken setup moves taken inBatch entered)
      exact ⟨entered, batch, once, ⟨entry, inBatch, rfl, body, metadata⟩, attempted⟩
    · contradiction
  · rintro send error rejected ⟨call, -, entry, -, other, entered, same⟩
    exact placed.not_entered_of_rejected rejected entered same
  · rcases endedWith_of_mem_returned setup moves returned with ⟨batch, ended, has, handled⟩ | same
    · cases handled with
      | canceled => exact .inl rfl
      | failed code cause => exact .inr ⟨batch, code, cause, rfl, has, ended⟩
    · exact .inl (Except.error.inj same)

/-- The driver is busy once, so it is asked to send the message twice. -/
example :
    let busy : Fault := .text "busy"
    let session := sessionOf
      { classification := { isRetryable := (· == busy), codeOf := fun _ => .internal } }
      [.send 0 { body := [1] }, .turn 0 {}, .turn 0 {}, .turn 0 {}, .turn 0 {}, .turn 0 {},
        .turn 0 { settled := .returned (.error busy) }, .turn 0 {}, .turn 0 {},
        .turn 0 { settled := .returned (.ok ()) }, .turn 0 {}, .turn 1 {}]
    session.returned.map Prod.snd = [(0, .ok ())] ∧
      session.calls.map (·.2.map Envelope.body) = [[[1]], [[1]]] := by
  decide +kernel

end Topic
end PubSub
