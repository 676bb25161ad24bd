import PubSub.Retry.Group

/-!
# What the members of a group have come to

A look at a group changes what its members have come to in one case only: the operation of
the member it looks at has returned a value. `Looked` says so for everything a look may lead
to. The group ends with the values of all members, or with an error, which is a cancellation
only if the context is cancelled.
-/

namespace PubSub
namespace Retry

variable {Request Value : Type}

/-- The value of a member that has succeeded. -/
def Member.value? : Member Request Value → Option Value
  | .running .. => none
  | .succeeded value => some value

/-! ## Single calls -/

/-- A retried call succeeds with the value that its operation returned. -/
theorem calling_of_step_eq_ok
    {plan : RetryPlan}
    {cancelled : Bool}
    {moment : Moment}
    {answer : Answer (Except Fault Value)}
    {phase : Phase}
    {value : Value}
    (stepped : phase.step plan cancelled moment answer = .finish (.ok value)) :
    ∃ failures, phase = .calling failures ∧ answer = .returned (.ok value) := by
  cases phase with
  | starting failures => grind [Phase.step]
  | pausing failures wakeAt => grind [Phase.step]
  | calling failures =>
      cases answer with
      | running => grind [Phase.step]
      | panicked info => grind [Phase.step]
      | returned result =>
          cases result with
          | ok other => grind [Phase.step]
          | error fault => grind [Phase.step, afterFault, pause]

/-- A retried call is cancelled only with its context. -/
theorem cancelled_of_step_eq_canceled
    {plan : RetryPlan}
    {cancelled : Bool}
    {moment : Moment}
    {answer : Answer (Except Fault Value)}
    {phase : Phase}
    (stepped : phase.step plan cancelled moment answer = .finish (.error .canceled)) :
    cancelled = true := by
  cases phase with
  | starting failures => grind [Phase.step]
  | pausing failures wakeAt => grind [Phase.step]
  | calling failures =>
      cases answer with
      | running => grind [Phase.step]
      | panicked info => grind [Phase.step]
      | returned result =>
          cases result with
          | ok other => grind [Phase.step]
          | error fault => grind [Phase.step, afterFault, pause]

/-- A retried call that fails was cancelled, or its operation has failed with a permanent error. -/
theorem permanent_of_step_eq_error
    {plan : RetryPlan}
    {cancelled : Bool}
    {moment : Moment}
    {answer : Answer (Except Fault Value)}
    {phase : Phase}
    {error : Error}
    (stepped : phase.step plan cancelled moment answer = .finish (.error error)) :
    error = .canceled ∨
      ∃ failures fault, phase = .calling failures ∧ answer = .returned (.error fault) ∧
        cancelled = false ∧ plan.classification.isRetryable fault = false ∧
        error = .driver (plan.classification.codeOf fault) fault := by
  cases phase with
  | starting failures => grind [Phase.step]
  | pausing failures wakeAt => grind [Phase.step]
  | calling failures =>
      cases answer with
      | running => grind [Phase.step]
      | panicked info => grind [Phase.step]
      | returned result =>
          cases result with
          | ok other => grind [Phase.step]
          | error fault => grind [Phase.step, afterFault, pause]

/-- Whether a call has failed or ended abnormally. -/
def Step.fails : Step Value → Bool
  | .finish (.error _) => true
  | .crash _ => true
  | _ => false

/-- An operation runs, or it has returned a value. -/
def IsFine (answer : Answer (Except Fault Value)) : Prop :=
  answer = .running ∨ ∃ value, answer = .returned (.ok value)

/-- As long as its context lives and its operation is fine, a retried call does not fail. -/
theorem fails_step
    {answer : Answer (Except Fault Value)}
    (fine : IsFine answer)
    (plan : RetryPlan)
    (moment : Moment)
    (phase : Phase) : (phase.step plan false moment answer).fails = false := by
  cases phase with
  | starting failures => rfl
  | pausing failures wakeAt =>
      simp only [Phase.step]
      split
      next => contradiction
      next => split <;> rfl
  | calling failures => rcases fine with rfl | ⟨value, rfl⟩ <;> rfl

/-! ## Groups -/

/-- Whether a group has failed or ended abnormally. -/
def GroupStep.fails : GroupStep Request Value → Bool
  | .finish (.error _) => true
  | .crash _ => true
  | _ => false

namespace Group

/-- As long as its context lives and the operations are fine, a group does not fail. -/
theorem fails_step
    {answer : Answer (Except Fault Value)}
    (fine : IsFine answer)
    (plan : Request → RetryPlan)
    (moment : Moment)
    (group : Group Request Value) : (group.step plan false moment answer).fails = false := by
  unfold Group.step
  split
  next => split <;> rfl
  next => rfl
  next request phase found =>
    have goesOn := Retry.fails_step fine (plan request) moment phase
    generalize phase.step (plan request) false moment answer = step at goesOn
    cases step with
    | crash info => contradiction
    | finish result =>
        cases result with
        | ok value => rfl
        | error error => contradiction
    | _ => rfl

/-- What the members of a group have come to, in their order. -/
def values (group : Group Request Value) : List (Option Value) :=
  group.members.map Member.value?

@[simp] theorem values_ofRequests (requests : List Request) :
    (ofRequests requests : Group Request Value).values = List.replicate requests.length none := by
  induction requests with
  | nil => rfl
  | cons request rest hypothesis =>
      rw [List.length_cons, List.replicate_succ, ← hypothesis]
      rfl

/-- A group has the values of all members exactly if each of them has come to its value. -/
theorem valuesOf?_eq_some_iff {members : List (Member Request Value)} {values : List Value} :
    valuesOf? members = some values ↔ members.map Member.value? = values.map some := by
  induction members generalizing values with
  | nil => cases values <;> simp [valuesOf?]
  | cons first rest hypothesis =>
      cases first with
      | running request phase => cases values <;> simp [valuesOf?, Member.value?]
      | succeeded value =>
          cases values with
          | nil => simp [valuesOf?, Member.value?]
          | cons other others =>
              simp only [valuesOf?, Option.map_eq_some_iff, hypothesis, List.map_cons,
                Member.value?, List.cons.injEq, Option.some.injEq]
              constructor
              · rintro ⟨rest, values, rfl, rfl⟩
                exact ⟨rfl, values⟩
              · rintro ⟨rfl, values⟩
                exact ⟨others, values, rfl, rfl⟩

/-- Another member at the place that is looked at changes the value there. -/
theorem values_setCurrent (group : Group Request Value) (member : Member Request Value) :
    (group.setCurrent member).values = group.values.set group.place member.value? := by
  simp [values, setCurrent, List.map_set]

/-- A member that has come to nothing may be replaced by another such member. -/
theorem values_setCurrent_running
    {group : Group Request Value}
    {request : Request}
    {before after : Phase}
    (found : group.members[group.place]? = some (.running request before)) :
    (group.setCurrent (.running request after)).values = group.values := by
  have present : group.values[group.place]? = some none := by
    simp [values, found, Member.value?]
  obtain ⟨bound, same⟩ := List.getElem?_eq_some_iff.mp present
  rw [values_setCurrent, Member.value?, ← same, List.set_getElem_self]

theorem awaited?_eq_some
    {group : Group Request Value}
    {place : Nat}
    (awaited : group.awaited? = some place) :
    place = group.place ∧
      ∃ request failures,
        group.members[group.place]? = some (.running request (.calling failures)) := by
  unfold awaited? at awaited
  split at awaited
  next request phase found =>
    cases phase with
    | calling failures =>
        exact ⟨by simpa [Phase.isCalling] using awaited.symm, request, failures, found⟩
    | starting failures => simp [Phase.isCalling] at awaited
    | pausing failures wakeAt => simp [Phase.isCalling] at awaited
  next => contradiction

theorem awaited?_of_calling
    {group : Group Request Value}
    {request : Request}
    {failures : Nat}
    (found : group.members[group.place]? = some (.running request (.calling failures))) :
    group.awaited? = some group.place := by
  simp [awaited?, found, Phase.isCalling]

/-- No operation that is awaited has returned a value. -/
def IsSilent (group : Group Request Value) (answer : Answer (Except Fault Value)) : Prop :=
  group.awaited? ≠ none → ∀ value, answer ≠ .returned (.ok value)

/-- What a look at a group leads to. -/
inductive Looked
    (cancelled : Bool)
    (answer : Answer (Except Fault Value))
    (group : Group Request Value) : GroupStep Request Value → Prop
  | wait {later : Group Request Value}
      (same : later.values = group.values)
      (silent : group.IsSilent answer) :
      Looked cancelled answer group (.wait later)
  | continue {later : Group Request Value}
      (same : later.values = group.values)
      (silent : group.IsSilent answer) :
      Looked cancelled answer group (.continue later)
  | call {place : Nat} {request : Request} {later : Group Request Value}
      (same : later.values = group.values)
      (silent : group.IsSilent answer) :
      Looked cancelled answer group (.call place request later)
  | announce {event : Event} {later : Group Request Value}
      (same : later.values = group.values)
      (silent : group.IsSilent answer) :
      Looked cancelled answer group (.announce event later)
  | returned {place : Nat} {value : Value} {later : Group Request Value}
      (awaited : group.awaited? = some place)
      (given : answer = .returned (.ok value))
      (unknown : group.values[place]? = some none)
      (values : later.values = group.values.set place (some value)) :
      Looked cancelled answer group (.continue later)
  | finish {values : List Value}
      (all : group.values = values.map some)
      (silent : group.IsSilent answer) :
      Looked cancelled answer group (.finish (.ok values))
  | fail {error : Error}
      (canceled : error = .canceled → cancelled = true)
      (silent : group.IsSilent answer) :
      Looked cancelled answer group (.finish (.error error))
  | crash {info : String}
      (unfinished : none ∈ group.values)
      (silent : group.IsSilent answer) :
      Looked cancelled answer group (.crash info)

theorem isSilent_of_awaited?_eq_none
    {group : Group Request Value}
    {answer : Answer (Except Fault Value)}
    (none : group.awaited? = none) : group.IsSilent answer := fun some => absurd none some

/-- As long as a retried call goes on, its operation has not returned a value. -/
theorem isSilent_of_step
    {plan : RetryPlan}
    {cancelled : Bool}
    {moment : Moment}
    {answer : Answer (Except Fault Value)}
    {group : Group Request Value}
    {request : Request}
    {phase : Phase}
    {step : Step Value}
    (found : group.members[group.place]? = some (.running request phase))
    (stepped : phase.step plan cancelled moment answer = step)
    (unfinished : ∀ value, step ≠ .finish (.ok value)) : group.IsSilent answer := by
  intro awaited value given
  obtain ⟨place, some⟩ := Option.ne_none_iff_exists'.mp awaited
  obtain ⟨_, other, failures, same⟩ := awaited?_eq_some some
  cases Option.some.inj (found.symm.trans same)
  subst given
  exact unfinished value (stepped.symm.trans (step_calling_of_value ..))

/-- Whatever a look at a group leads to, the values of its members follow the answers. -/
theorem looked_step
    (plan : Request → RetryPlan)
    (cancelled : Bool)
    (moment : Moment)
    (answer : Answer (Except Fault Value))
    (group : Group Request Value) :
    Looked cancelled answer group (group.step plan cancelled moment answer) := by
  unfold Group.step
  split
  next absent =>
    have quiet : group.awaited? = none := by simp [awaited?, absent]
    split
    next values all =>
      exact .finish (valuesOf?_eq_some_iff.mp all) (isSilent_of_awaited?_eq_none quiet)
    next => exact .wait rfl (isSilent_of_awaited?_eq_none quiet)
  next value found =>
    have quiet : group.awaited? = none := by simp [awaited?, found]
    exact .continue rfl (isSilent_of_awaited?_eq_none quiet)
  next request phase found =>
    split
    next stepped =>
      exact .continue rfl (isSilent_of_step found stepped nofun)
    next failures stepped =>
      exact .call (values_setCurrent_running found)
        (isSilent_of_step found stepped nofun)
    next event later stepped =>
      exact .announce (values_setCurrent_running found)
        (isSilent_of_step found stepped nofun)
    next later stepped =>
      exact .continue (values_setCurrent_running found)
        (isSilent_of_step found stepped nofun)
    next value stepped =>
      obtain ⟨failures, rfl, rfl⟩ := calling_of_step_eq_ok stepped
      have unknown : group.values[group.place]? = some none := by
        simp [values, found, Member.value?]
      exact .returned (awaited?_of_calling found) rfl unknown
        (values_setCurrent group (.succeeded value))
    next error stepped =>
      refine .fail (fun canceled => ?_) (isSilent_of_step found stepped nofun)
      exact cancelled_of_step_eq_canceled (canceled ▸ stepped)
    next info stepped =>
      have unfinished : none ∈ group.values :=
        List.mem_map.mpr ⟨_, List.mem_of_getElem? found, rfl⟩
      exact .crash unfinished (isSilent_of_step found stepped nofun)

end Group
end Retry
end PubSub
