import PubSub.Proofs.Retry.Members
import PubSub.Proofs.Retry.Scripted

/-!
# Retried calls whose context is cancelled

Cancellation ends a retried call at the next look at it, wherever the call stands. All that counts
then is whether the operation has come to a value: if it has, this is the result, and otherwise the
result is cancellation, even if the operation has failed. So no operation is started and no other
attempt is announced after a cancellation, and an error of the driver is the result only of a call
whose context was live when its operation failed.

Attempts and announcements take turns, so there are as many announcements as attempts, or one fewer.

`Reason` says why a look at a call comes to a result. `lastRecord` is what the first look under a
cancelled context leads to, and `Session.run_of_cancelled` follows a call from its cancellation on.
-/

namespace PubSub
namespace Retry

variable {Value : Type} {plan : RetryPlan}

/-! ## Looks that end a call -/

/-- What somebody who looks at a call hears of its operation, which runs in one phase only. -/
def Phase.heard (answer : Answer (Except Fault Value)) : Phase → Answer (Except Fault Value)
  | .calling _ => answer
  | .starting _ => .running
  | .pausing .. => .running

/-- Why a look at a call comes to a result, from whether its context is cancelled and what is heard
of its operation. -/
inductive Reason (plan : RetryPlan) (cancelled : Prop) :
    Answer (Except Fault Value) → Outcome Value → Prop
  | completed {value : Value} : Reason plan cancelled (.returned (.ok value)) (.ok value)
  | failed {fault : Fault}
      (live : ¬cancelled)
      (permanent : plan.classification.isRetryable fault = false) :
      Reason plan cancelled (.returned (.error fault))
        (.error (.driver (plan.classification.codeOf fault) fault))
  | canceled {heard : Answer (Except Fault Value)}
      (ended : cancelled)
      (incomplete : ∀ value, heard ≠ .returned (.ok value)) :
      Reason plan cancelled heard (.error .canceled)

namespace Reason

variable {cancelled : Bool}

/-- A call whose operation has come to nothing ends because its context is cancelled. -/
theorem of_running
    {result : Outcome Value}
    {going : Step Value}
    (finishes : (if cancelled then .finish (.error .canceled) else going) = .finish result)
    (goesOn : going ≠ .finish result) : Reason plan (cancelled = true) .running result := by
  split at finishes
  next ended =>
    cases finishes
    refine .canceled ended ?_
    intro value same
    contradiction
  next => exact absurd finishes goesOn

/-- An error of the operation ends a call because its context is cancelled, or because the error is
not transient. -/
theorem of_afterFault
    {failures : Nat}
    {moment : Moment}
    {fault : Fault}
    {result : Outcome Value}
    (finishes : afterFault plan failures cancelled moment fault = .finish result) :
    Reason plan (cancelled = true) (.returned (.error fault)) result := by
  unfold afterFault at finishes
  split at finishes
  next ended =>
    cases finishes
    refine .canceled ended ?_
    intro value same
    cases same
  next live =>
    split at finishes
    next => split at finishes <;> contradiction
    next permanent =>
      cases finishes
      exact .failed live (by simpa using permanent)

/-- A look at a call comes to a result for a reason. -/
theorem of_step
    {moment : Moment}
    {answer : Answer (Except Fault Value)}
    {phase : Phase}
    {result : Outcome Value}
    (finishes : phase.step plan cancelled moment answer = .finish result) :
    Reason plan (cancelled = true) (phase.heard answer) result := by
  cases phase with
  | starting failures =>
      apply of_running finishes
      intro same
      contradiction
  | pausing failures wakeAt =>
      apply of_running finishes
      split <;> (intro same; contradiction)
  | calling failures =>
      cases answer with
      | panicked info => contradiction
      | running =>
          apply of_running finishes
          intro same
          contradiction
      | returned outcome =>
          cases outcome with
          | error fault => exact of_afterFault finishes
          | ok value =>
              cases finishes
              exact .completed

end Reason

/-- What is recorded last of a call that is looked at under a cancelled context, from what is heard
of its operation. -/
def lastRecord : Answer (Except Fault Value) → Record Value
  | .running => .finished (.error .canceled)
  | .returned (.ok value) => .finished (.ok value)
  | .returned (.error _) => .finished (.error .canceled)
  | .panicked info => .crashed info

theorem call?_lastRecord (heard : Answer (Except Fault Value)) :
    (lastRecord heard).call? = none := by
  cases heard with
  | running => rfl
  | panicked info => rfl
  | returned outcome => cases outcome <;> rfl

theorem pause?_lastRecord (heard : Answer (Except Fault Value)) :
    (lastRecord heard).pause? = none := by
  cases heard with
  | running => rfl
  | panicked info => rfl
  | returned outcome => cases outcome <;> rfl

/-- Whether somebody looks at the call. -/
def Move.isLook : Move Value → Bool
  | .look _ => true
  | .elapse _ => false
  | .cancel => false

/-! ## From a cancellation on -/

namespace Session

variable {session : Session Value} (plan)

/-- The first look under a cancelled context ends the call. -/
theorem step_look_of_cancelled
    (cancelled : session.cancelled = true)
    {phase : Phase}
    (stands : session.phase = some phase)
    (finding : Finding Value) :
    session.step plan (.look finding) =
      session.note none (lastRecord (phase.heard finding.answer)) := by
  rw [step, stands, cancelled]
  cases phase with
  | starting failures => rfl
  | pausing failures wakeAt => rfl
  | calling failures =>
      rw [Phase.heard]
      cases finding.answer with
      | running => rfl
      | panicked info => rfl
      | returned outcome => cases outcome <;> rfl

/-- A look at a call that is over changes nothing. -/
theorem step_look_of_over
    (isOver : session.phase = none)
    (finding : Finding Value) : session.step plan (.look finding) = session := by
  rw [step, isOver]

/-- Nothing happens to a call that is over. -/
theorem run_of_over
    (isOver : session.phase = none)
    (moves : List (Move Value)) :
    (session.run plan moves).phase = none ∧ (session.run plan moves).records = session.records := by
  induction moves generalizing session with
  | nil => exact ⟨isOver, rfl⟩
  | cons move later hypothesis =>
      cases move with
      | look finding =>
          rw [run, List.foldl_cons, step_look_of_over plan isOver]
          exact hypothesis isOver
      | elapse nanos => exact @hypothesis { session with now := session.now + nanos } isOver
      | cancel => exact @hypothesis { session with cancelled := true } isOver

/-- As long as nobody looks at a call it stays where it is. -/
theorem run_of_unseen
    {moves : List (Move Value)}
    (unseen : ∀ move ∈ moves, move.isLook = false) :
    (session.run plan moves).phase = session.phase ∧
      (session.run plan moves).records = session.records ∧
      (session.cancelled = true → (session.run plan moves).cancelled = true) := by
  induction moves generalizing session with
  | nil => exact ⟨rfl, rfl, id⟩
  | cons move later hypothesis =>
      obtain ⟨first, others⟩ := List.forall_mem_cons.mp unseen
      cases move with
      | look finding => contradiction
      | elapse nanos => exact @hypothesis { session with now := session.now + nanos } others
      | cancel =>
          obtain ⟨phase, records, lasting⟩ := @hypothesis { session with cancelled := true } others
          exact ⟨phase, records, fun _ => lasting rfl⟩

/-- A call whose context is cancelled is ended by the first look at it. -/
theorem run_of_cancelled
    (cancelled : session.cancelled = true)
    {phase : Phase}
    (stands : session.phase = some phase)
    {unseen : List (Move Value)}
    (quiet : ∀ move ∈ unseen, move.isLook = false)
    (finding : Finding Value)
    (later : List (Move Value)) :
    (session.run plan (unseen ++ .look finding :: later)).phase = none ∧
      (session.run plan (unseen ++ .look finding :: later)).records =
        session.records ++ [lastRecord (phase.heard finding.answer)] := by
  obtain ⟨samePhase, sameRecords, lasting⟩ := run_of_unseen plan quiet
  have ended := step_look_of_cancelled plan (lasting cancelled) (samePhase.trans stands) finding
  have split : session.run plan (unseen ++ .look finding :: later) =
      ((session.run plan unseen).step plan (.look finding)).run plan later := by
    rw [run_append]
    rfl
  have isOver : ((session.run plan unseen).note none
      (lastRecord (phase.heard finding.answer))).phase = none := rfl
  obtain ⟨stillOver, records⟩ := run_of_over plan isOver later
  rw [split, ended]
  refine ⟨stillOver, records.trans ?_⟩
  rw [note, sameRecords]

/-- Under a cancelled context no operation is started and no other attempt is announced. -/
theorem step_of_cancelled
    (cancelled : session.cancelled = true)
    (move : Move Value) :
    (session.step plan move).calls = session.calls ∧
      (session.step plan move).pauses = session.pauses ∧
      (session.step plan move).cancelled = true := by
  cases move with
  | elapse nanos => exact ⟨rfl, rfl, cancelled⟩
  | cancel => exact ⟨rfl, rfl, rfl⟩
  | look finding =>
      cases stands : session.phase with
      | none =>
          rw [step_look_of_over plan stands]
          exact ⟨rfl, rfl, cancelled⟩
      | some phase =>
          rw [step_look_of_cancelled plan cancelled stands, calls_note, pauses_note,
            call?_lastRecord, pause?_lastRecord]
          exact ⟨List.append_nil _, List.append_nil _, cancelled⟩

theorem run_of_cancelled_context
    (cancelled : session.cancelled = true)
    (moves : List (Move Value)) :
    (session.run plan moves).calls = session.calls ∧
      (session.run plan moves).pauses = session.pauses := by
  induction moves generalizing session with
  | nil => exact ⟨rfl, rfl⟩
  | cons move later hypothesis =>
      obtain ⟨calls, pauses, lasting⟩ := step_of_cancelled plan cancelled move
      obtain ⟨laterCalls, laterPauses⟩ := hypothesis lasting
      exact ⟨laterCalls.trans calls, laterPauses.trans pauses⟩

end Session

/-! ## Attempts and announcements -/

/-- Every attempt is followed by the announcement of another one, apart from one that is running or
was the last. A call that is not over has no result. -/
structure Paced (session : Session Value) : Prop where
  kinds : ∀ pause ∈ session.pauses, pause.1.kind = .retryScheduled
  count : ∃ calling : Bool, session.pauses.length + calling.toNat = session.calls.length ∧
    ∀ phase, session.phase = some phase → phase.isCalling = calling
  unfinished : session.phase ≠ none → session.results = []

namespace Paced

variable {session : Session Value}

theorem create : Paced ({} : Session Value) where
  kinds pause member := by contradiction
  count := by
    refine ⟨false, rfl, ?_⟩
    intro phase stands
    cases stands
    rfl
  unfinished _ := rfl

/-- The number of attempts in excess, of a call that stands in a phase. -/
theorem count_of_phase
    (paced : Paced session)
    {phase : Phase}
    (stands : session.phase = some phase) :
    session.pauses.length + phase.isCalling.toNat = session.calls.length := by
  obtain ⟨calling, count, same⟩ := paced.count
  rw [same phase stands]
  exact count

/-- The call goes on in another phase. -/
theorem wentOn
    (paced : Paced session)
    (going : session.phase ≠ none)
    {phase : Phase}
    {record : Record Value}
    (kind : ∀ pause, record.pause? = some pause → pause.1.kind = .retryScheduled)
    (unfinished : record.result? = none)
    (count : (session.pauses ++ record.pause?.toList).length + phase.isCalling.toNat =
      (session.calls ++ record.call?.toList).length) :
    Paced (session.note (some phase) record) where
  kinds pause member := by
    rw [Session.pauses_note, List.mem_append, Option.mem_toList] at member
    rcases member with earlier | new
    · exact paced.kinds pause earlier
    · exact kind pause new
  count := by
    refine ⟨phase.isCalling, ?_, ?_⟩
    · rw [Session.pauses_note, Session.calls_note]
      exact count
    · intro other stands
      cases stands
      rfl
  unfinished _ := by
    rw [Session.results_note, unfinished, paced.unfinished going]
    rfl

/-- The call is over. -/
theorem ended
    (paced : Paced session)
    {record : Record Value}
    (uncalled : record.call? = none)
    (unannounced : record.pause? = none) : Paced (session.note none record) where
  kinds pause member := by
    rw [Session.pauses_note, unannounced, Option.toList_none, List.append_nil] at member
    exact paced.kinds pause member
  count := by
    obtain ⟨calling, count, -⟩ := paced.count
    refine ⟨calling, ?_, ?_⟩
    · rw [Session.pauses_note, Session.calls_note, unannounced, uncalled]
      simpa using count
    · intro phase stands
      contradiction
  unfinished going := absurd rfl going

/-- Whatever a look at the call leads to. -/
theorem follow
    (paced : Paced session)
    {cancelled : Bool}
    {answer : Answer (Except Fault Value)}
    {phase : Phase}
    (stands : session.phase = some phase)
    {next : Step Value}
    (stepped : Stepped plan cancelled answer phase next) : Paced (session.follow next) := by
  have going : session.phase ≠ none := by simp [stands]
  have count := paced.count_of_phase stands
  cases stepped with
  | waited => exact paced
  | called =>
      apply paced.wentOn going (by simp) rfl
      simpa [Phase.isCalling] using count
  | announced =>
      apply paced.wentOn going _ rfl
      · simpa [Phase.isCalling] using count
      · intro pause same
        cases same
        rfl
  | resumed =>
      apply paced.wentOn going (by simp) rfl
      simpa [Phase.isCalling] using count
  | returned => exact paced.ended rfl rfl
  | failed => exact paced.ended rfl rfl
  | crashed => exact paced.ended rfl rfl

theorem step (paced : Paced session) (move : Move Value) : Paced (session.step plan move) := by
  cases move with
  | elapse nanos => exact { paced with }
  | cancel => exact { paced with }
  | look finding =>
      rw [Session.step]
      split
      next => exact paced
      next phase stands => exact paced.follow stands (stepped_step ..)

end Paced

theorem paced_sessionOf (plan : RetryPlan) (moves : List (Move Value)) :
    Paced (sessionOf plan moves) := by
  induction moves using List.reverseRecOn with
  | nil => exact .create
  | append_singleton earlier move hypothesis =>
      rw [sessionOf_append]
      exact hypothesis.step move

/-! ## Where results come from -/

@[simp] theorem Session.cancelled_follow (session : Session Value) (next : Step Value) :
    (session.follow next).cancelled = session.cancelled := by
  cases next <;> rfl

theorem cancelled_step_iff {session : Session Value} (move : Move Value) :
    (session.step plan move).cancelled = true ↔ session.cancelled = true ∨ move = .cancel := by
  cases move with
  | elapse nanos => simp [Session.step]
  | cancel => simp [Session.step]
  | look finding =>
      rw [Session.step]
      split <;> simp

/-- The context is cancelled once somebody has cancelled it. -/
theorem cancelled_sessionOf_iff (plan : RetryPlan) (moves : List (Move Value)) :
    (sessionOf plan moves).cancelled = true ↔ .cancel ∈ moves := by
  induction moves using List.reverseRecOn with
  | nil => simp [sessionOf, Session.run]
  | append_singleton earlier move hypothesis =>
      rw [sessionOf_append, Session.run, List.foldl_cons, List.foldl_nil, cancelled_step_iff,
        hypothesis, List.mem_append, List.mem_singleton, eq_comm]

/-- A result is there already, or a look at the call comes to it. -/
theorem mem_results_step
    {session : Session Value}
    {move : Move Value}
    {result : Outcome Value}
    (member : result ∈ (session.step plan move).results) :
    result ∈ session.results ∨ ∃ finding phase,
      move = .look finding ∧ session.phase = some phase ∧
        Reason plan (session.cancelled = true) (phase.heard finding.answer) result := by
  cases move with
  | elapse nanos => exact .inl member
  | cancel => exact .inl member
  | look finding =>
      rw [Session.step] at member
      split at member
      next => exact .inl member
      next phase stands =>
        generalize leads : phase.step plan session.cancelled (session.moment finding)
          finding.answer = next at member
        cases next with
        | wait => exact .inl member
        | call failures => exact .inl (by simpa [Session.follow] using member)
        | announce event later => exact .inl (by simpa [Session.follow] using member)
        | «continue» later => exact .inl (by simpa [Session.follow] using member)
        | crash info => exact .inl (by simpa [Session.follow] using member)
        | finish outcome =>
            rw [Session.follow, Session.results_note, List.mem_append] at member
            rcases member with earlier | new
            · exact .inl earlier
            · obtain rfl := List.mem_singleton.mp new
              exact .inr ⟨finding, phase, rfl, stands, .of_step leads⟩

/-- One of the moves is a look that comes to a result, for a reason. -/
def Finishes (plan : RetryPlan) (moves : List (Move Value)) (result : Outcome Value) : Prop :=
  ∃ before finding later phase,
    moves = before ++ .look finding :: later ∧
    (sessionOf plan before).phase = some phase ∧
    Reason plan (.cancel ∈ before) (phase.heard finding.answer) result

theorem finishes_of_mem_results
    {moves : List (Move Value)}
    {result : Outcome Value}
    (member : result ∈ (sessionOf plan moves).results) : Finishes plan moves result := by
  -- The induction takes off the last move; what comes before it is a session again.
  induction moves using List.reverseRecOn with
  | nil => contradiction
  | append_singleton earlier move hypothesis =>
      rw [sessionOf_append] at member
      rcases mem_results_step member with known | ⟨finding, phase, rfl, stands, reason⟩
      · obtain ⟨before, finding, later, phase, rfl, rest⟩ := hypothesis known
        exact ⟨before, finding, later ++ [move], phase, by simp, rest⟩
      · rw [cancelled_sessionOf_iff] at reason
        exact ⟨earlier, finding, [], phase, rfl, stands, reason⟩

/-- Once its context is cancelled, a call starts no operation and announces no other attempt, and
the next look ends it: with the value of the operation if it has come to one, abnormally if the
operation has ended so, and with cancellation otherwise. Every result has its reason. -/
theorem canceled_unless_completed (plan : RetryPlan) (moves : List (Move Value)) :
    let session : Session Value := sessionOf plan moves
    (∀ before later, moves = before ++ .cancel :: later →
      let standing : Session Value := sessionOf plan before
      session.calls = standing.calls ∧ session.pauses = standing.pauses ∧
      ∀ phase, standing.phase = some phase →
        ((∀ move ∈ later, move.isLook = false) →
          session.phase = some phase ∧ session.records = standing.records) ∧
        ∀ unseen finding rest, later = unseen ++ .look finding :: rest →
          (∀ move ∈ unseen, move.isLook = false) →
          session.phase = none ∧
            session.records = standing.records ++ [lastRecord (phase.heard finding.answer)]) ∧
    (∀ result ∈ session.results, Finishes plan moves result) ∧
    (session.phase ≠ none → session.results = []) ∧
    (∀ pause ∈ session.pauses, pause.1.kind = .retryScheduled) ∧
    (session.pauses.length = session.calls.length ∨
      session.pauses.length + 1 = session.calls.length) := by
  intro session
  have paced : Paced session := paced_sessionOf plan moves
  refine ⟨?cancelled, fun result member => finishes_of_mem_results member, paced.unfinished,
    paced.kinds, ?count⟩
  case cancelled =>
    intro before later split standing
    have whole : session = (standing.step plan .cancel).run plan later := by
      show sessionOf plan moves = _
      rw [split, sessionOf_append]
      rfl
    have cancelled : (standing.step plan .cancel).cancelled = true := rfl
    obtain ⟨calls, pauses⟩ := Session.run_of_cancelled_context plan cancelled later
    rw [whole]
    refine ⟨calls, pauses, fun phase stands => ⟨fun unseen => ?_, ?_⟩⟩
    · obtain ⟨samePhase, sameRecords, -⟩ :=
        @Session.run_of_unseen _ plan (standing.step plan .cancel) later unseen
      exact ⟨samePhase.trans stands, sameRecords⟩
    · rintro unseen finding rest rfl quiet
      exact Session.run_of_cancelled plan cancelled stands quiet finding rest
  case count =>
    obtain ⟨calling, count, -⟩ := paced.count
    cases calling with
    | false => exact .inl count
    | true => exact .inr count

/-- An error of the operation that is heard of under a cancelled context makes way for it. -/
example (plan : RetryPlan) (fault : Fault) :
    (sessionOf plan
      [.look {}, .cancel, .look { answer := .returned (.error fault) }] : Session Nat).results =
      [.error .canceled] := rfl

end Retry
end PubSub
