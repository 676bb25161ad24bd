import Mathlib.Data.List.Induction
import PubSub.Proofs.Retry.Session

/-!
# Retried calls that follow a script

The outcomes of the attempts of a retried call are a script, finite or infinite. Under a live
context the call goes through the script from its beginning: it announces another attempt after
every error that is transient, waits, and starts it. The first value or permanent error decides the
result.

`Scripted` is what is known wherever the call stands: how often the operation was started and how
often another attempt was announced, and what each announcement says. As every look that need not
wait leads the call on, and only so many can, three for each attempt before the last one and two for
that, the call comes to its end if the script decides.
-/

namespace PubSub

/-! ## Delays -/

namespace Backoff

/-- Whether a policy has delays before every attempt that is counted. -/
def IsSound (policy : Backoff) : Prop := ∀ attempt ≤ maxHalfWord, policy.next? attempt ≠ none

theorem powerLoop_one (exponent : Nat) : Binary64.powerLoop 1.0 1.0 exponent = 1.0 := by
  induction exponent using Nat.strongRecOn with
  | ind exponent hypothesis =>
      have square : (1.0 : Float) * 1.0 = 1.0 := by decide +kernel
      rw [Binary64.powerLoop, square, ite_self]
      split
      next => rfl
      next => exact hypothesis _ (by omega)

/-- A policy without delays has none before any attempt. -/
theorem next?_immediate (attempt : Nat) : immediate.next? attempt = some (.exactly .zero) := by
  have factor : immediate.factor = 1.0 := rfl
  have uncapped : immediate.uncapped attempt = immediate.first.toSeconds * 1.0 := by
    rw [Backoff.uncapped, Binary64.power, factor, powerLoop_one]
  rw [next?, base?, uncapped]
  decide +kernel

theorem isSound_immediate : immediate.IsSound := by
  intro attempt _
  rw [next?_immediate]
  exact Option.some_ne_none _

end Backoff

theorem Delays.allows_shortest_uniform (lower upper : Nat) :
    (Delays.uniform lower upper).Allows (Delays.uniform lower upper).shortest := by
  unfold Delays.uniform
  split
  next => rfl
  next longer => exact ⟨lower, Nat.le_refl lower, by omega, rfl⟩

/-- The shortest delay may be picked. -/
theorem Backoff.allows_shortest
    {policy : Backoff}
    {attempt : Nat}
    {delays : Delays}
    (next : policy.next? attempt = some delays) : delays.Allows delays.shortest := by
  obtain ⟨base, -, rfl⟩ := Option.map_eq_some_iff.mp next
  cases policy.jitter with
  | none => rfl
  | full => exact Delays.allows_shortest_uniform ..
  | equal => exact Delays.allows_shortest_uniform ..
  | decorrelated =>
      unfold Jitter.applyDecorrelated
      dsimp only
      split
      next => rfl
      next => exact Delays.allows_shortest_uniform ..

namespace Retry

variable {Value : Type}

/-! ## Scripts -/

/-- The outcomes of the attempts, counted from zero; none from where the operation does not come to
an outcome. -/
abbrev Script (Value : Type) := Nat → Option (Except Fault Value)

/-- A number of failures as a call counts them, stopping at the largest 32-bit word. -/
def counted (failures : Nat) : Nat := min failures maxHalfWord

theorem oneMore_counted (failures : Nat) : oneMore (counted failures) = counted (failures + 1) := by
  unfold oneMore counted
  omega

/-- The result of a call whose attempt has come to an outcome, unless the attempt is repeated. -/
def resultOf? (plan : RetryPlan) : Except Fault Value → Option (Outcome Value)
  | .ok value => some (.ok value)
  | .error fault =>
      if plan.classification.isRetryable fault then none
      else some (.error (.driver (plan.classification.codeOf fault) fault))

/-- The attempt of an index is the first whose outcome is a value or an error that is not transient,
and this is the result. -/
structure Decides
    (plan : RetryPlan)
    (script : Script Value)
    (index : Nat)
    (result : Outcome Value) : Prop where
  outcome : (script index).bind (resultOf? plan) = some result
  transient : ∀ earlier < index, ∃ fault, script earlier = some (.error fault) ∧
    plan.classification.isRetryable fault = true

namespace Session

/-- A move under a live context, by which the running attempt comes to nothing but its outcome in
the script, and chance picks a delay that the policy allows. -/
def Obeys (plan : RetryPlan) (script : Script Value) (session : Session Value) :
    Move Value → Prop
  | .look finding =>
      (∀ attempt delays, plan.policy.next? attempt = some delays →
        delays.Allows (finding.pick delays)) ∧
      (finding.answer = .running ∨
        ∃ outcome, script (session.calls.length - 1) = some outcome ∧
          finding.answer = .returned outcome)
  | .elapse _ => True
  | .cancel => False

/-- Moves by which the call follows a script. -/
def Follows (plan : RetryPlan) (script : Script Value) (session : Session Value) :
    List (Move Value) → Prop
  | [] => True
  | move :: later =>
      session.Obeys plan script move ∧ (session.step plan move).Follows plan script later

/-- Whether somebody who looks at the call has to wait, for the operation or for the time of the
next attempt. -/
def IsWaiting (session : Session Value) (finding : Finding Value) : Prop :=
  match session.phase with
  | some (.calling _) => finding.answer = .running
  | some (.pausing _ wakeAt) => session.now < wakeAt
  | some (.starting _) => False
  | none => False

end Session

/-- After the attempt of an index, which failed, another one was announced under its number. The
delay is one that the policy allows, and the next attempt was not started before it was over. -/
def Retried
    (plan : RetryPlan)
    (script : Script Value)
    (session : Session Value)
    (index : Nat) : Prop :=
  ∃ fault delays delay time,
    script index = some (.error fault) ∧
    plan.classification.isRetryable fault = true ∧
    plan.policy.next? (counted index) = some delays ∧
    delays.Allows delay ∧
    session.pauses[index]? =
      some (announcement plan (counted (index + 1)) fault delay, time, time + delay.nanos) ∧
    ∀ called, session.calls[index + 1]? = some called → time + delay.nanos ≤ called

/-! ## Where a call stands -/

namespace Session

/-- How often the operation was started, how often another attempt was announced, and how much has
happened. -/
def tally (session : Session Value) : Nat × Nat × Nat :=
  (session.calls.length, session.pauses.length, session.records.length)

variable (session : Session Value) (phase : Option Phase) (record : Record Value)

@[simp] theorem calls_note :
    (session.note phase record).calls = session.calls ++ record.call?.toList := by
  cases record <;> simp [note, calls]

@[simp] theorem pauses_note :
    (session.note phase record).pauses = session.pauses ++ record.pause?.toList := by
  cases record <;> simp [note, pauses]

@[simp] theorem results_note :
    (session.note phase record).results = session.results ++ record.result?.toList := by
  cases record <;> simp [note, results]

@[simp] theorem length_records_note :
    (session.note phase record).records.length = session.records.length + 1 := by
  simp [note]

end Session

/-- Where a call stands after some failures. -/
inductive Stands (plan : RetryPlan) (script : Script Value) (session : Session Value) : Prop
  | starting (failures : Nat)
      (phase : session.phase = some (.starting (counted failures)))
      (tally : session.tally = (failures, failures, 3 * failures))
      (unfinished : session.results = [])
  | calling (failures : Nat)
      (phase : session.phase = some (.calling (counted failures)))
      (tally : session.tally = (failures + 1, failures, 3 * failures + 1))
      (unfinished : session.results = [])
  | pausing (failures wakeAt : Nat)
      (phase : session.phase = some (.pausing (counted (failures + 1)) wakeAt))
      (tally : session.tally = (failures + 1, failures + 1, 3 * failures + 2))
      (unfinished : session.results = [])
      (current : ∃ event time, session.pauses.getLast? = some (event, time, wakeAt))
  | done (failures : Nat) (result : Outcome Value)
      (phase : session.phase = none)
      (tally : session.tally = (failures + 1, failures, 3 * failures + 2))
      (finished : session.results = [result])
      (decides : Decides plan script failures result)

/-- A call does what its script says. -/
structure Scripted (plan : RetryPlan) (script : Script Value) (session : Session Value) : Prop where
  live : session.cancelled = false
  stands : Stands plan script session
  /-- Every announced attempt follows an error of the script. -/
  history : ∀ index < session.pauses.length, Retried plan script session index
  /-- Only the current pause is not over. -/
  rested : ∀ pause ∈ session.pauses,
    pause.2.2 ≤ session.now ∨ ∃ failures, session.phase = some (.pausing failures pause.2.2)

variable {plan : RetryPlan} {script : Script Value} {session later : Session Value}

/-- What is known about an attempt that failed remains known, and so is that the next one waits. -/
theorem Retried.mono
    {index : Nat}
    (retried : Retried plan script session index)
    (pauses : session.pauses <+: later.pauses)
    (calls : ∀ called, later.calls[index + 1]? = some called →
      session.calls[index + 1]? = some called ∨ ∀ pause ∈ session.pauses, pause.2.2 ≤ called) :
    Retried plan script later index := by
  obtain ⟨fault, delays, delay, time, failed, transient, next, allowed, announced, waited⟩ :=
    retried
  refine ⟨fault, delays, delay, time, failed, transient, next, allowed, ?_, fun called here => ?_⟩
  · obtain ⟨rest, whole⟩ := pauses
    obtain ⟨inside, -⟩ := List.getElem?_eq_some_iff.mp announced
    rw [← whole, List.getElem?_append_left inside, announced]
  · rcases calls called here with earlier | rested
    · exact waited called earlier
    · exact rested _ (List.mem_of_getElem? announced)

namespace Scripted

/-- Nothing but time has passed. -/
theorem elapse
    (scripted : Scripted plan script session)
    (nanos : Nat) : Scripted plan script { session with now := session.now + nanos } where
  live := scripted.live
  stands := by
    cases scripted.stands with
    | starting failures phase tally unfinished => exact .starting failures phase tally unfinished
    | calling failures phase tally unfinished => exact .calling failures phase tally unfinished
    | pausing failures wakeAt phase tally unfinished current =>
        exact .pausing failures wakeAt phase tally unfinished current
    | done failures result phase tally finished decides =>
        exact .done failures result phase tally finished decides
  history index inside := scripted.history index inside
  rested pause member := (scripted.rested pause member).imp_left (Nat.le_add_right_of_le ·)

/-- Every pause is over if the call does not pause. -/
theorem rested_of_phase
    (scripted : Scripted plan script session)
    (awake : ∀ failures wakeAt, session.phase ≠ some (.pausing failures wakeAt)) :
    ∀ pause ∈ session.pauses, pause.2.2 ≤ session.now := by
  intro pause member
  exact (scripted.rested pause member).resolve_right fun ⟨failures, phase⟩ =>
    awake failures _ phase

/-- An attempt is started. -/
theorem called
    (scripted : Scripted plan script session)
    {failures : Nat}
    (phase : session.phase = some (.starting (counted failures)))
    (tally : session.tally = (failures, failures, 3 * failures))
    (unfinished : session.results = []) :
    Scripted plan script
      (session.note (some (.calling (counted failures))) (.called session.now)) := by
  have rested := scripted.rested_of_phase (by simp [phase])
  refine ⟨scripted.live, .calling failures rfl ?tally (by simpa using unfinished),
    fun index inside => ?history, fun pause member => .inl (rested pause (by simpa using member))⟩
  case tally => simpa [Session.tally] using tally
  case history =>
    refine (scripted.history index (by simpa using inside)).mono (by simp) fun called here => ?_
    rw [Session.calls_note] at here
    by_cases earlier : index + 1 < session.calls.length
    · rw [List.getElem?_append_left earlier] at here
      exact .inl here
    · have now : called = session.now := by
        rw [List.getElem?_append_right (by omega)] at here
        simpa using (List.mem_of_getElem? here)
      exact .inr (now ▸ rested)

/-- An attempt failed with an error that is transient, and another one is announced. -/
theorem announced
    (scripted : Scripted plan script session)
    {failures : Nat}
    (phase : session.phase = some (.calling (counted failures)))
    (tally : session.tally = (failures + 1, failures, 3 * failures + 1))
    (unfinished : session.results = [])
    {fault : Fault}
    (failed : script failures = some (.error fault))
    (transient : plan.classification.isRetryable fault = true)
    {delays : Delays}
    {delay : Duration}
    (next : plan.policy.next? (counted failures) = some delays)
    (allowed : delays.Allows delay) :
    Scripted plan script
      (session.note (some (.pausing (counted (failures + 1)) (session.now + delay.nanos)))
        (.announced (announcement plan (counted (failures + 1)) fault delay) session.now
          (session.now + delay.nanos))) := by
  obtain ⟨started, paused, -⟩ : session.calls.length = failures + 1 ∧
      session.pauses.length = failures ∧ session.records.length = 3 * failures + 1 := by
    simpa [Session.tally] using tally
  refine ⟨scripted.live, .pausing failures _ rfl ?tally (by simpa using unfinished) ?current,
    fun index inside => ?history, fun pause member => ?rested⟩
  case tally => simpa [Session.tally] using tally
  case current => exact ⟨_, _, by rw [Session.pauses_note]; exact List.getLast?_concat⟩
  case history =>
    by_cases earlier : index < failures
    · exact (scripted.history index (by omega)).mono (by simp) fun called here =>
        .inl (by simpa using here)
    · obtain rfl : index = failures := by
        simp [paused] at inside
        omega
      refine ⟨fault, delays, delay, session.now, failed, transient, next, allowed, ?_,
        fun called here => ?_⟩
      · simp [← paused]
      · simp [started] at here
  case rested =>
    rw [Session.pauses_note] at member
    rcases List.mem_append.mp member with earlier | new
    · exact .inl (scripted.rested_of_phase (by simp [phase]) pause earlier)
    · obtain rfl := List.mem_singleton.mp new
      exact .inr ⟨_, rfl⟩

/-- A pause is over. -/
theorem resumed
    (scripted : Scripted plan script session)
    {failures wakeAt : Nat}
    (phase : session.phase = some (.pausing (counted (failures + 1)) wakeAt))
    (tally : session.tally = (failures + 1, failures + 1, 3 * failures + 2))
    (unfinished : session.results = [])
    (reached : wakeAt ≤ session.now) :
    Scripted plan script
      (session.note (some (.starting (counted (failures + 1)))) (.resumed session.now)) := by
  refine ⟨scripted.live, .starting (failures + 1) rfl ?tally (by simpa using unfinished),
    fun index inside => ?history, fun pause member => .inl ?rested⟩
  case tally => simpa [Session.tally, Nat.mul_succ] using tally
  case history =>
    exact (scripted.history index (by simpa using inside)).mono (by simp) fun called here =>
      .inl (by simpa using here)
  case rested =>
    rcases scripted.rested pause (by simpa using member) with earlier | ⟨other, current⟩
    · exact earlier
    · rw [phase] at current
      injection current with same
      injection same with _ same
      exact same ▸ reached

/-- An attempt has come to an outcome that ends the call. -/
theorem finished
    (scripted : Scripted plan script session)
    {failures : Nat}
    (phase : session.phase = some (.calling (counted failures)))
    (tally : session.tally = (failures + 1, failures, 3 * failures + 1))
    (unfinished : session.results = [])
    {result : Outcome Value}
    (outcome : (script failures).bind (resultOf? plan) = some result) :
    Scripted plan script (session.note none (.finished result)) := by
  have paused : session.pauses.length = failures := by
    have pair := congrArg (fun counts => counts.2.1) tally
    exact pair
  refine ⟨scripted.live, .done failures result rfl ?tally (by simp [unfinished]) ⟨outcome, ?before⟩,
    fun index inside => ?history, fun pause member => .inl ?rested⟩
  case tally => simpa [Session.tally] using tally
  case before =>
    intro earlier before
    obtain ⟨fault, _, _, _, failed, transient, -⟩ := scripted.history earlier (paused ▸ before)
    exact ⟨fault, failed, transient⟩
  case history =>
    exact (scripted.history index (by simpa using inside)).mono (by simp) fun called here =>
      .inl (by simpa using here)
  case rested =>
    exact scripted.rested_of_phase (by simp [phase]) pause (by simpa using member)

/-- A look at the call. -/
theorem look
    (scripted : Scripted plan script session)
    (sound : plan.policy.IsSound)
    {finding : Finding Value}
    (obeys : session.Obeys plan script (.look finding)) :
    Scripted plan script (session.step plan (.look finding)) := by
  obtain ⟨picks, answers⟩ := obeys
  unfold Session.step
  cases scripted.stands with
  | starting failures phase tally unfinished =>
      simp only [phase, Phase.step, scripted.live, Bool.false_eq_true, if_false]
      exact scripted.called phase tally unfinished
  | pausing failures wakeAt phase tally unfinished =>
      simp only [phase, Phase.step, scripted.live, Bool.false_eq_true, if_false]
      split
      next reached => exact scripted.resumed phase tally unfinished reached
      next => exact scripted
  | done failures result phase tally finished decides =>
      simp only [phase]
      exact scripted
  | calling failures phase tally unfinished =>
      have started : session.calls.length = failures + 1 := by
        have pair := congrArg Prod.fst tally
        exact pair
      rw [started, Nat.add_sub_cancel] at answers
      rcases answers with running | ⟨outcome, failed, returned⟩
      · simp only [phase, running, Phase.step, scripted.live, Bool.false_eq_true, if_false]
        exact scripted
      · cases outcome with
        | ok value =>
            simp only [phase, returned, Phase.step]
            exact scripted.finished phase tally unfinished (by rw [failed]; rfl)
        | error fault =>
            simp only [phase, returned, Phase.step, afterFault, scripted.live, Bool.false_eq_true,
              if_false]
            split
            next transient =>
              split
              next missing => exact absurd missing (sound _ (Nat.min_le_right ..))
              next delays next =>
                rw [oneMore_counted]
                exact scripted.announced phase tally unfinished failed transient next
                  (picks _ _ next)
            next permanent =>
              refine scripted.finished phase tally unfinished ?_
              rw [failed, Option.bind_some, resultOf?, if_neg permanent]

theorem step
    (scripted : Scripted plan script session)
    (sound : plan.policy.IsSound)
    {move : Move Value}
    (obeys : session.Obeys plan script move) : Scripted plan script (session.step plan move) := by
  cases move with
  | look finding => exact scripted.look sound obeys
  | elapse nanos => exact scripted.elapse nanos
  | cancel => exact obeys.elim

theorem run
    (scripted : Scripted plan script session)
    (sound : plan.policy.IsSound)
    {moves : List (Move Value)}
    (follows : session.Follows plan script moves) :
    Scripted plan script (session.run plan moves) := by
  induction moves generalizing session with
  | nil => exact scripted
  | cons move later hypothesis => exact hypothesis (scripted.step sound follows.1) follows.2

/-- A call that nobody has looked at. -/
theorem create (plan : RetryPlan) (script : Script Value) :
    Scripted plan script ({} : Session Value) where
  live := rfl
  stands := .starting 0 rfl rfl rfl
  history index inside := by contradiction
  rested pause member := by contradiction

end Scripted

theorem scripted_sessionOf
    (sound : plan.policy.IsSound)
    {moves : List (Move Value)}
    (follows : Session.Follows plan script {} moves) :
    Scripted plan script (sessionOf plan moves) :=
  (Scripted.create plan script).run sound follows

/-! ## How far a call comes -/

namespace Decides

variable {index other : Nat} {result answer : Outcome Value}

/-- An error that is transient does not end a call. -/
theorem not_transient
    (decides : Decides plan script index result)
    {fault : Fault}
    (failed : script index = some (.error fault)) :
    plan.classification.isRetryable fault = false := by
  have outcome := decides.outcome
  rw [failed, Option.bind_some, resultOf?] at outcome
  split at outcome
  next => contradiction
  next permanent => simpa using permanent

/-- Only transient errors come before the outcome that decides. -/
theorem le_of_transient
    (decides : Decides plan script index result)
    (transient : ∀ earlier < other, ∃ fault, script earlier = some (.error fault) ∧
      plan.classification.isRetryable fault = true) : other ≤ index := by
  apply Nat.le_of_not_lt
  intro before
  obtain ⟨fault, failed, retried⟩ := transient index before
  rw [decides.not_transient failed] at retried
  contradiction

/-- One outcome decides. -/
theorem unique
    (decides : Decides plan script index result)
    (decided : Decides plan script other answer) : index = other ∧ result = answer := by
  obtain rfl : index = other := Nat.le_antisymm (decided.le_of_transient decides.transient)
    (decides.le_of_transient decided.transient)
  exact ⟨rfl, Option.some.inj (decides.outcome.symm.trans decided.outcome)⟩

/-- Every attempt up to the one that decides comes to an outcome. -/
theorem exists_outcome
    (decides : Decides plan script index result)
    (before : other ≤ index) : ∃ outcome, script other = some outcome := by
  rcases Nat.lt_or_eq_of_le before with earlier | rfl
  · obtain ⟨fault, failed, -⟩ := decides.transient other earlier
    exact ⟨_, failed⟩
  · obtain ⟨outcome, came, -⟩ := Option.bind_eq_some_iff.mp decides.outcome
    exact ⟨outcome, came⟩

end Decides

namespace Scripted

/-- No more attempts are announced than failed before the outcome that decides. -/
theorem length_pauses_le
    (scripted : Scripted plan script session)
    {index : Nat}
    {result : Outcome Value}
    (decides : Decides plan script index result) : session.pauses.length ≤ index := by
  refine decides.le_of_transient fun earlier inside => ?_
  obtain ⟨fault, _, _, _, failed, transient, -⟩ := scripted.history earlier inside
  exact ⟨fault, failed, transient⟩

theorem bounds
    (scripted : Scripted plan script session)
    {index : Nat}
    {result : Outcome Value}
    (decides : Decides plan script index result) :
    session.calls.length ≤ index + 1 ∧ session.records.length ≤ 3 * index + 2 := by
  have paused := scripted.length_pauses_le decides
  cases scripted.stands with
  | starting failures _ tally | calling failures _ tally | pausing failures _ _ tally
  | done failures _ _ tally =>
      simp only [Session.tally, Prod.mk.injEq] at tally
      omega

/-- A call that is over has come to the result that its script decides. -/
theorem eq_of_done
    (scripted : Scripted plan script session)
    (idle : session.phase = none) :
    ∃ index result, Decides plan script index result ∧ session.calls.length = index + 1 ∧
      session.pauses.length = index ∧ session.results = [result] := by
  cases scripted.stands with
  | starting _ phase | calling _ phase | pausing _ _ phase =>
      rw [idle] at phase
      contradiction
  | done failures result _ tally finished decides =>
      simp only [Session.tally, Prod.mk.injEq] at tally
      exact ⟨failures, result, decides, tally.1, tally.2.1, finished⟩

theorem results_eq_nil
    (scripted : Scripted plan script session)
    (going : session.phase ≠ none) : session.results = [] := by
  cases scripted.stands with
  | starting _ _ _ unfinished | calling _ _ _ unfinished | pausing _ _ _ _ unfinished =>
      exact unfinished
  | done _ _ phase => exact absurd phase going

/-- A call that pauses waits for the time of the last announcement. -/
theorem current
    (scripted : Scripted plan script session)
    {failures wakeAt : Nat}
    (pausing : session.phase = some (.pausing failures wakeAt)) :
    ∃ event time, session.pauses.getLast? = some (event, time, wakeAt) := by
  cases scripted.stands with
  | starting _ phase | calling _ phase | done _ _ phase => cases pausing.symm.trans phase
  | pausing _ _ phase _ _ current =>
      cases pausing.symm.trans phase
      exact current

/-- Somebody who has to wait changes nothing. -/
theorem step_of_isWaiting
    (scripted : Scripted plan script session)
    {finding : Finding Value}
    (waiting : session.IsWaiting finding) : session.step plan (.look finding) = session := by
  unfold Session.IsWaiting at waiting
  unfold Session.step
  split at waiting
  next failures phase =>
    simp only [phase, waiting, Phase.step, scripted.live, Bool.false_eq_true, if_false]
    rfl
  next failures wakeAt phase =>
    have early : ¬wakeAt ≤ (session.moment finding).now := Nat.not_le.mpr waiting
    simp only [phase, Phase.step, scripted.live, Bool.false_eq_true, if_false, early]
    rfl
  next => contradiction
  next => contradiction

end Scripted

/-- Whoever looks at a call that is not over and does not have to wait leads it on. -/
theorem length_records_step
    {finding : Finding Value}
    (going : session.phase ≠ none)
    (awake : ¬session.IsWaiting finding) :
    (session.step plan (.look finding)).records.length = session.records.length + 1 := by
  obtain ⟨phase, here⟩ := Option.ne_none_iff_exists'.mp going
  have moves :
      phase.step plan session.cancelled (session.moment finding) finding.answer ≠ .wait := by
    intro waits
    apply awake
    rw [Session.IsWaiting, here]
    cases phase with
    | starting failures => grind [Phase.step]
    | pausing failures wakeAt =>
        rw [Phase.step] at waits
        split at waits
        next => contradiction
        next =>
          split at waits
          next => contradiction
          next early => exact Nat.not_le.mp early
    | calling failures =>
        cases answer : finding.answer with
        | running => rfl
        | panicked info => rw [answer] at waits; contradiction
        | returned outcome =>
            rw [answer] at waits
            cases outcome with
            | ok value => contradiction
            | error fault => grind [Phase.step, afterFault, pause]
  rw [Session.step, here]
  dsimp only
  generalize phase.step _ _ _ _ = step at moves
  cases step with
  | wait => contradiction
  | call | announce | «continue» | finish | crash => exact Session.length_records_note ..

namespace Session

theorem follows_append {first second : List (Move Value)} :
    session.Follows plan script (first ++ second) ↔
      session.Follows plan script first ∧ (session.run plan first).Follows plan script second := by
  induction first generalizing session with
  | nil => simp [Follows, run]
  | cons move later hypothesis =>
      rw [List.cons_append, Follows, Follows, hypothesis, and_assoc]
      rfl

theorem obeys_look
    {finding : Finding Value}
    (picks : finding.pick = Delays.shortest)
    (answers : finding.answer = .running ∨
      ∃ outcome, script (session.calls.length - 1) = some outcome ∧
        finding.answer = .returned outcome) :
    session.Obeys plan script (.look finding) := by
  refine ⟨fun attempt delays next => ?_, answers⟩
  rw [picks]
  exact Backoff.allows_shortest next

end Session

namespace Scripted

/-- As long as the script goes on, a call that is not over can be led on. -/
theorem exists_leading
    (scripted : Scripted plan script session)
    {index : Nat}
    {result : Outcome Value}
    (decides : Decides plan script index result)
    (going : session.phase ≠ none) :
    ∃ moves, session.Follows plan script moves ∧
      (session.run plan moves).records.length = session.records.length + 1 := by
  have paused := scripted.length_pauses_le decides
  cases scripted.stands with
  | done _ _ phase => exact absurd phase going
  | starting failures phase =>
      refine ⟨[.look {}], ⟨Session.obeys_look rfl (.inl rfl), trivial⟩, ?_⟩
      exact length_records_step going (by simp [Session.IsWaiting, phase])
  | pausing failures wakeAt phase =>
      refine ⟨[.elapse wakeAt, .look {}], ⟨trivial, Session.obeys_look rfl (.inl rfl), trivial⟩, ?_⟩
      have pausing : (session.step plan (.elapse wakeAt)).phase ≠ none := going
      have awake : ¬(session.step plan (.elapse wakeAt)).IsWaiting {} := by
        simp [Session.IsWaiting, Session.step, phase]
      exact length_records_step pausing awake
  | calling failures phase tally =>
      simp only [Session.tally, Prod.mk.injEq] at tally
      obtain ⟨outcome, came⟩ := decides.exists_outcome (by omega : failures ≤ index)
      refine ⟨[.look { answer := .returned outcome }],
        ⟨Session.obeys_look rfl (.inr ⟨outcome, ?_, rfl⟩), trivial⟩, ?_⟩
      · rw [tally.1, Nat.add_sub_cancel, came]
      · exact length_records_step going (by simp [Session.IsWaiting, phase])

/-- A call whose script decides can be led to its end. -/
theorem exists_done
    (scripted : Scripted plan script session)
    (sound : plan.policy.IsSound)
    {index : Nat}
    {result : Outcome Value}
    (decides : Decides plan script index result) :
    ∃ moves, session.Follows plan script moves ∧ (session.run plan moves).phase = none := by
  -- The induction is on how much can still happen.
  induction left : 3 * index + 2 - session.records.length using Nat.strongRecOn
    generalizing session with
  | ind left hypothesis =>
      by_cases idle : session.phase = none
      · exact ⟨[], trivial, idle⟩
      · obtain ⟨first, follows, more⟩ := scripted.exists_leading decides idle
        have next := scripted.run sound follows
        have bound := (next.bounds decides).2
        obtain ⟨second, goesOn, ended⟩ := hypothesis _ (by omega) next rfl
        refine ⟨first ++ second, Session.follows_append.mpr ⟨follows, goesOn⟩, ?_⟩
        rw [Session.run, List.foldl_append]
        exact ended

end Scripted

/-- Under a live context, a retried call goes through the script of its operation: whoever looks at
it leads it on or has to wait. If an outcome decides, the call can always be led to its end and has
this result then; otherwise it is never over. -/
theorem call_follows_script
    (plan : RetryPlan)
    (sound : plan.policy.IsSound)
    (script : Script Value)
    (moves : List (Move Value))
    (follows : Session.Follows plan script {} moves) :
    let session : Session Value := sessionOf plan moves
    (∀ index < session.pauses.length, Retried plan script session index) ∧
    (∀ failures wakeAt, session.phase = some (.pausing failures wakeAt) →
      ∃ event time, session.pauses.getLast? = some (event, time, wakeAt)) ∧
    (session.phase ≠ none → session.results = [] ∧ ∀ finding,
      (session.IsWaiting finding → session.step plan (.look finding) = session) ∧
      (¬session.IsWaiting finding →
        (session.step plan (.look finding)).records.length = session.records.length + 1)) ∧
    (∀ index result, Decides plan script index result →
      session.calls.length ≤ index + 1 ∧ session.pauses.length ≤ index ∧
      session.records.length ≤ 3 * index + 2 ∧
      (session.phase = none → session.calls.length = index + 1 ∧ session.pauses.length = index ∧
        session.results = [result]) ∧
      ∃ later, Session.Follows plan script {} (moves ++ later) ∧
        (sessionOf plan (moves ++ later)).phase = none) ∧
    ((∀ index result, ¬Decides plan script index result) → session.phase ≠ none) := by
  intro session
  have scripted : Scripted plan script session := scripted_sessionOf sound follows
  refine ⟨scripted.history, fun _ _ => scripted.current, fun going => ?going,
    fun index result decides => ?decided, fun endless idle => ?endless⟩
  case going =>
    exact ⟨scripted.results_eq_nil going, fun finding =>
      ⟨scripted.step_of_isWaiting, length_records_step going⟩⟩
  case decided =>
    have bounds := scripted.bounds decides
    refine ⟨bounds.1, scripted.length_pauses_le decides, bounds.2, fun idle => ?_, ?_⟩
    · obtain ⟨other, answer, decided, calls, pauses, results⟩ := scripted.eq_of_done idle
      obtain ⟨rfl, rfl⟩ := decided.unique decides
      exact ⟨calls, pauses, results⟩
    · obtain ⟨later, goesOn, idle⟩ := scripted.exists_done sound decides
      refine ⟨later, Session.follows_append.mpr ⟨follows, goesOn⟩, ?_⟩
      rw [sessionOf, Session.run, List.foldl_append]
      exact idle
  case endless =>
    obtain ⟨index, result, decides, -⟩ := scripted.eq_of_done idle
    exact endless index result decides

/-- A plan without delays, by which one error is transient. -/
def unavailable : RetryPlan :=
  { component := "test"
    operation := "send_batch"
    policy := .immediate
    classification :=
      { isRetryable := fun fault => fault.message == "unavailable"
        codeOf := fun _ => .permissionDenied } }

/-- The first attempt fails with an error that is transient, and the second one with another. -/
theorem call_follows_script_of_denied :
    let outcomes : List (Except Fault Nat) :=
      [.error (.text "unavailable"), .error (.text "denied")]
    let script : Script Nat := fun index => outcomes[index]?
    let moves : List (Move Nat) :=
      [.look {}, .look { answer := .returned (.error (.text "unavailable")) }, .look {}, .look {},
        .look { answer := .returned (.error (.text "denied")) }]
    let session := sessionOf unavailable moves
    unavailable.policy.IsSound ∧ Session.Follows unavailable script {} moves ∧
      session.phase = none ∧ session.calls.length = 2 ∧
      session.pauses.map Prod.fst =
        [Event.retryScheduled "test" "send_batch" 1 .zero "unavailable"] ∧
      session.results = [.error (.driver .permissionDenied (.text "denied"))] := by
  intro outcomes script moves session
  have follows : Session.Follows unavailable script {} moves := by
    refine ⟨Session.obeys_look rfl (.inl rfl), Session.obeys_look rfl (.inr ⟨_, rfl, rfl⟩),
      Session.obeys_look rfl (.inl rfl), Session.obeys_look rfl (.inl rfl),
      Session.obeys_look rfl (.inr ⟨_, ?_, rfl⟩), trivial⟩
    decide +kernel
  have decides :
      Decides unavailable script 1 (.error (.driver .permissionDenied (.text "denied"))) := by
    refine ⟨rfl, fun earlier before => ⟨.text "unavailable", ?_⟩⟩
    obtain rfl : earlier = 0 := Nat.lt_one_iff.mp before
    exact ⟨rfl, rfl⟩
  have idle : session.phase = none := by decide +kernel
  have told := call_follows_script unavailable Backoff.isSound_immediate script moves follows
  obtain ⟨-, -, -, ended, -⟩ := told.2.2.2.1 1 _ decides
  exact ⟨Backoff.isSound_immediate, follows, idle, (ended idle).1, by decide +kernel,
    (ended idle).2.2⟩

end Retry
end PubSub
