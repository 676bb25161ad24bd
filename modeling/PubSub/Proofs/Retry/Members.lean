import PubSub.Proofs.Retry.Groups

/-!
# What a look at a group does to its members

A look at a retried call leads to one of few things, which `Stepped` lists with all that is
known about them; a look at a group does one of these to the member it looks at, as `Moved`
says. A group keeps the requests it was made for, so every attempt at a place makes the same
request.

A group waits if somebody who looks at one member after the other, while no operation comes to
an answer, finds nothing to do. Under a cancelled context no group waits: whoever looks at it for
long enough sees it come to a result, as `ends_of_cancelled` says.
-/

namespace PubSub
namespace Retry

variable {Request Value : Type}

/-! ## Single calls -/

/-- What a look at a retried call leads to. -/
inductive Stepped
    (plan : RetryPlan)
    (cancelled : Bool)
    (answer : Answer (Except Fault Value)) : Phase → Step Value → Prop
  | waited {phase : Phase} (live : cancelled = false) :
      Stepped plan cancelled answer phase .wait
  | called {failures : Nat} (live : cancelled = false) :
      Stepped plan cancelled answer (.starting failures) (.call failures)
  | announced {failures later wakeAt : Nat} {fault : Fault} {delay : Duration} :
      Stepped plan cancelled answer (.calling failures)
        (.announce (announcement plan later fault delay) (.pausing later wakeAt))
  | resumed {failures wakeAt : Nat} :
      Stepped plan cancelled answer (.pausing failures wakeAt) (.continue (.starting failures))
  | returned {failures : Nat} {value : Value} (given : answer = .returned (.ok value)) :
      Stepped plan cancelled answer (.calling failures) (.finish (.ok value))
  | failed {phase : Phase} {error : Error}
      (reason : error = .canceled ∨ ∃ code fault, error = .driver code fault) :
      Stepped plan cancelled answer phase (.finish (.error error))
  | crashed {failures : Nat} {info : String}
      (reason : answer = .panicked info ∨ plan.policy.next? failures = none) :
      Stepped plan cancelled answer (.calling failures) (.crash info)

theorem stepped_afterFault
    (plan : RetryPlan)
    (failures : Nat)
    (cancelled : Bool)
    (moment : Moment)
    (fault : Fault)
    (answer : Answer (Except Fault Value)) :
    Stepped plan cancelled answer (.calling failures)
      (afterFault plan failures cancelled moment fault) := by
  unfold afterFault
  split
  next => exact .failed (.inl rfl)
  next =>
    split
    next =>
      split
      next none => exact .crashed (.inr none)
      next delays _ => exact .announced
    next => exact .failed (.inr ⟨_, _, rfl⟩)

theorem stepped_step
    (plan : RetryPlan)
    (cancelled : Bool)
    (moment : Moment)
    (answer : Answer (Except Fault Value))
    (phase : Phase) :
    Stepped plan cancelled answer phase (phase.step plan cancelled moment answer) := by
  cases phase with
  | starting failures =>
      cases cancelled with
      | true => exact .failed (.inl rfl)
      | false => exact .called rfl
  | calling failures =>
      cases answer with
      | running =>
          cases cancelled with
          | true => exact .failed (.inl rfl)
          | false => exact .waited rfl
      | panicked info => exact .crashed (.inl rfl)
      | returned result =>
          cases result with
          | ok value => exact .returned rfl
          | error fault => exact stepped_afterFault ..
  | pausing failures wakeAt =>
      cases cancelled with
      | true => exact .failed (.inl rfl)
      | false =>
          rw [Phase.step, if_neg Bool.false_ne_true]
          split
          next => exact .resumed
          next => exact .waited rfl

/-- As long as the operation runs, only the time and the context matter. -/
theorem step_running_congr
    {moment other : Moment}
    (sameTime : other.now = moment.now)
    (plan : RetryPlan)
    (cancelled : Bool)
    (phase : Phase) :
    phase.step plan cancelled other (.running : Answer (Except Fault Value)) =
      phase.step plan cancelled moment .running := by
  cases phase with
  | starting failures => rfl
  | calling failures => rfl
  | pausing failures wakeAt => rw [Phase.step, Phase.step, sameTime]

/-- Under a cancelled context, a call whose operation runs is over. -/
@[simp] theorem step_running_of_cancelled (plan : RetryPlan) (moment : Moment) (phase : Phase) :
    phase.step plan true moment (.running : Answer (Except Fault Value)) =
      .finish (.error .canceled) := by
  cases phase <;> rfl

/-- Whether a call stays as it is. -/
def Step.isWait : Step Value → Bool
  | .wait => true
  | _ => false

/-! ## Groups -/

/-- The group that is left after a look, unless it has ended. -/
def GroupStep.group? : GroupStep Request Value → Option (Group Request Value)
  | .wait group => some group
  | .continue group => some group
  | .call _ _ group => some group
  | .announce _ group => some group
  | .finish _ => none
  | .crash _ => none

namespace Group

/-- What a look at a group does to its members. -/
inductive Moved
    (plan : Request → RetryPlan)
    (cancelled : Bool)
    (answer : Answer (Except Fault Value))
    (group : Group Request Value) : GroupStep Request Value → Prop
  /-- Every member was looked at, and not all have succeeded. -/
  | passed : Moved plan cancelled answer group (.wait { group with place := 0 })
  /-- There was nothing to do for a member. -/
  | skipped : Moved plan cancelled answer group (.continue group.advance)
  | called {request : Request} {failures : Nat}
      (found : group.members[group.place]? = some (.running request (.starting failures)))
      (live : cancelled = false) :
      Moved plan cancelled answer group
        (.call group.place request (group.setCurrent (.running request (.calling failures))))
  | announced {request : Request} {failures later wakeAt : Nat} {fault : Fault}
      {delay : Duration}
      (found : group.members[group.place]? = some (.running request (.calling failures))) :
      Moved plan cancelled answer group
        (.announce (announcement (plan request) later fault delay)
          (group.setCurrent (.running request (.pausing later wakeAt))))
  | resumed {request : Request} {failures wakeAt : Nat}
      (found : group.members[group.place]? = some (.running request (.pausing failures wakeAt))) :
      Moved plan cancelled answer group
        (.continue (group.setCurrent (.running request (.starting failures))))
  | returned {request : Request} {failures : Nat} {value : Value}
      (found : group.members[group.place]? = some (.running request (.calling failures)))
      (given : answer = .returned (.ok value)) :
      Moved plan cancelled answer group
        (.continue (group.setCurrent (.succeeded value)).advance)
  | finished {values : List Value} (all : group.values = values.map some) :
      Moved plan cancelled answer group (.finish (.ok values))
  | failed {error : Error}
      (reason : error = .canceled ∨ ∃ code fault, error = .driver code fault) :
      Moved plan cancelled answer group (.finish (.error error))
  | crashed {request : Request} {failures : Nat} {info : String}
      (found : group.members[group.place]? = some (.running request (.calling failures)))
      (reason : answer = .panicked info ∨ (plan request).policy.next? failures = none) :
      Moved plan cancelled answer group (.crash info)

theorem moved_step
    (plan : Request → RetryPlan)
    (cancelled : Bool)
    (moment : Moment)
    (answer : Answer (Except Fault Value))
    (group : Group Request Value) :
    Moved plan cancelled answer group (group.step plan cancelled moment answer) := by
  unfold Group.step
  split
  next =>
    split
    next values all => exact .finished (valuesOf?_eq_some_iff.mp all)
    next => exact .passed
  next => exact .skipped
  next request phase found =>
    have stepped := stepped_step (plan request) cancelled moment answer phase
    generalize phase.step _ _ _ _ = step at stepped
    cases stepped with
    | waited => exact .skipped
    | called live => exact .called found live
    | announced => exact .announced found
    | resumed => exact .resumed found
    | returned given => exact .returned found given
    | failed reason => exact .failed reason
    | crashed reason => exact .crashed found reason

/-- No error of a group is that of a subscription that was shut down. -/
theorem ne_subscriptionShutdown_of_step_eq
    {plan : Request → RetryPlan}
    {cancelled : Bool}
    {moment : Moment}
    {answer : Answer (Except Fault Value)}
    {group : Group Request Value}
    {error : Error}
    (stepped : group.step plan cancelled moment answer = .finish (.error error)) :
    error ≠ .subscriptionShutdown := by
  have moved := moved_step plan cancelled moment answer group
  rw [stepped] at moved
  cases moved with
  | failed reason => rcases reason with rfl | ⟨code, fault, rfl⟩ <;> exact nofun

/-! ## Requests -/

/-- The members of a group that still run make these requests, in their order. -/
structure MakesOnly (requests : List Request) (group : Group Request Value) : Prop where
  length : group.members.length = requests.length
  running : ∀ (place : Nat) (request : Request) (phase : Phase),
    group.members[place]? = some (.running request phase) → requests[place]? = some request

namespace MakesOnly

variable {requests : List Request} {group : Group Request Value}

theorem ofRequests (requests : List Request) :
    MakesOnly requests (Group.ofRequests requests : Group Request Value) where
  length := by simp [Group.ofRequests]
  running place request phase found := by
    rw [Group.ofRequests, List.getElem?_map, Option.map_eq_some_iff] at found
    obtain ⟨other, present, same⟩ := found
    cases same
    exact present

/-- A member is replaced by one that makes the same request, or by one that has succeeded. -/
theorem setCurrent
    (only : MakesOnly requests group)
    {member : Member Request Value}
    (same : ∀ request phase, member = Member.running request phase →
      requests[group.place]? = some request) : MakesOnly requests (group.setCurrent member) where
  length := by rw [Group.setCurrent, List.length_set, only.length]
  running place request phase found := by
    rw [Group.setCurrent, List.getElem?_set] at found
    split at found
    next here =>
      subst here
      split at found
      next => exact same request phase (Option.some.inj found)
      next => contradiction
    next => exact only.running place request phase found

end MakesOnly

/-- The members of a group that still run make these requests, in their order, and the operations
that are running were asked for. -/
structure Asks
    (requests : List Request)
    (asked : Nat → Request → Prop)
    (group : Group Request Value) : Prop extends MakesOnly requests group where
  called : ∀ (place : Nat) (request : Request) (failures : Nat),
    group.members[place]? = some (.running request (.calling failures)) → asked place request

namespace Asks

variable {requests : List Request} {asked : Nat → Request → Prop}
  {group later : Group Request Value}

/-- No operation of a new group is running. -/
theorem ofRequests (requests : List Request) (asked : Nat → Request → Prop) :
    Asks requests asked (Group.ofRequests requests : Group Request Value) where
  toMakesOnly := .ofRequests requests
  called place request failures found := by
    rw [Group.ofRequests, List.getElem?_map, Option.map_eq_some_iff] at found
    obtain ⟨other, -, same⟩ := found
    cases same

/-- Another member is looked at. -/
theorem congr
    (asks : Asks requests asked group)
    (same : later.members = group.members) : Asks requests asked later where
  length := same ▸ asks.length
  running := same ▸ asks.running
  called := same ▸ asks.called

/-- More was asked for. -/
theorem mono
    (asks : Asks requests asked group)
    {wanted : Nat → Request → Prop}
    (known : ∀ place request, asked place request → wanted place request) :
    Asks requests wanted group where
  toMakesOnly := asks.toMakesOnly
  called place request failures found :=
    known place request (asks.called place request failures found)

/-- The member that is looked at has come to something else. -/
theorem setCurrent
    (asks : Asks requests asked group)
    {member : Member Request Value}
    (same : ∀ request phase, member = Member.running request phase →
      requests[group.place]? = some request)
    (called : ∀ request failures, member = Member.running request (.calling failures) →
      asked group.place request) : Asks requests asked (group.setCurrent member) where
  toMakesOnly := asks.toMakesOnly.setCurrent same
  called place request failures found := by
    rw [Group.setCurrent, List.getElem?_set] at found
    split at found
    next here =>
      subst here
      split at found
      next => exact called request failures (Option.some.inj found)
      next => contradiction
    next => exact asks.called place request failures found

/-- A look at a group whose next operation was asked for. -/
theorem moved
    (asks : Asks requests asked group)
    {plan : Request → RetryPlan}
    {cancelled : Bool}
    {answer : Answer (Except Fault Value)}
    {step : GroupStep Request Value}
    (moved : Moved plan cancelled answer group step)
    (leads : step.group? = some later)
    (called : ∀ place request, step = .call place request later → asked place request) :
    Asks requests asked later := by
  cases moved with
  | passed | skipped =>
      cases leads
      exact asks.congr rfl
  | called found live =>
      cases leads
      refine asks.setCurrent ?_ ?_
      · rintro request phase ⟨⟩
        exact asks.running _ _ _ found
      · rintro request failures ⟨⟩
        exact called _ _ rfl
  | announced found | resumed found =>
      cases leads
      refine asks.setCurrent ?_ nofun
      rintro request phase ⟨⟩
      exact asks.running _ _ _ found
  | returned found given =>
      cases leads
      suffices noted : Asks requests asked (group.setCurrent (.succeeded _)) from
        noted.congr rfl
      exact asks.setCurrent nofun nofun
  | finished | failed | crashed => contradiction

end Asks

/-! ## Waiting -/

/-- Whether somebody who looks at a member finds nothing to do as long as no operation comes to
an answer. -/
def isQuiet
    (plan : Request → RetryPlan)
    (cancelled : Bool)
    (moment : Moment) : Member Request Value → Bool
  | .running request phase =>
      (phase.step (plan request) cancelled moment
        (.running : Answer (Except Fault Value))).isWait
  | .succeeded _ => true

/-- Whether a group waits until time passes or an operation comes to an answer. -/
def isWaiting
    (plan : Request → RetryPlan)
    (cancelled : Bool)
    (moment : Moment)
    (group : Group Request Value) : Bool :=
  (valuesOf? group.members).isNone && group.members.all (isQuiet plan cancelled moment)

variable {plan : Request → RetryPlan} {cancelled : Bool} {moment : Moment}
  {group : Group Request Value}

/-- If not all members have succeeded, one of them has come to nothing. -/
theorem exists_running_of_valuesOf?_eq_none
    {members : List (Member Request Value)}
    (unfinished : valuesOf? members = none) :
    ∃ request phase, Member.running request phase ∈ members := by
  apply Classical.byContradiction
  intro nobody
  have succeeded : ∀ member ∈ members, ∃ value, member = .succeeded value := by
    intro member present
    cases member with
    | running request phase => exact absurd ⟨request, phase, present⟩ nobody
    | succeeded value => exact ⟨value, rfl⟩
  have all := valuesOf?_isSome_iff.mpr succeeded
  rw [unfinished] at all
  contradiction

/-- A group waits for a member that has come to nothing. -/
theorem exists_running_of_isWaiting (waiting : group.isWaiting plan cancelled moment = true) :
    ∃ request phase, Member.running request phase ∈ group.members ∧
      isQuiet plan cancelled moment (.running request phase : Member Request Value) = true := by
  rw [isWaiting, Bool.and_eq_true, Option.isNone_iff_eq_none, List.all_eq_true] at waiting
  obtain ⟨unfinished, quiet⟩ := waiting
  obtain ⟨request, phase, present⟩ := exists_running_of_valuesOf?_eq_none unfinished
  exact ⟨request, phase, present, quiet _ present⟩

theorem none_mem_values_of_isWaiting (waiting : group.isWaiting plan cancelled moment = true) :
    none ∈ group.values := by
  obtain ⟨request, phase, present, _⟩ := exists_running_of_isWaiting waiting
  exact List.mem_map.mpr ⟨_, present, rfl⟩

/-- Under a cancelled context no group waits. -/
theorem isWaiting_of_cancelled : group.isWaiting plan true moment = false := by
  rw [Bool.eq_false_iff]
  intro waiting
  obtain ⟨request, phase, _, quiet⟩ := exists_running_of_isWaiting waiting
  rw [isQuiet, step_running_of_cancelled] at quiet
  contradiction

/-- Whoever looks at a group that waits, at whichever member, changes none of them. -/
theorem step_of_isWaiting
    (waiting : group.isWaiting plan cancelled moment = true)
    {other : Moment}
    (sameTime : other.now = moment.now) :
    group.step plan cancelled other .running = .wait { group with place := 0 } ∨
      group.step plan cancelled other .running = .continue group.advance := by
  rw [isWaiting, Bool.and_eq_true, Option.isNone_iff_eq_none, List.all_eq_true] at waiting
  obtain ⟨unfinished, quiet⟩ := waiting
  unfold Group.step
  split
  next =>
    rw [unfinished]
    exact .inl rfl
  next => exact .inr rfl
  next request phase found =>
    have still := quiet _ (List.mem_of_getElem? found)
    rw [isQuiet, ← step_running_congr sameTime] at still
    cases stepped : phase.step (plan request) cancelled other
      (.running : Answer (Except Fault Value)) with
    | wait => exact .inr rfl
    | _ =>
        rw [stepped] at still
        contradiction

/-! ## Groups that end -/

/-- Whoever looks at a group over and over, under a cancelled context and while no operation comes
to an answer, sees it come to a result. -/
inductive Ends (plan : Request → RetryPlan) (moment : Moment) : Group Request Value → Prop
  | finished {group : Group Request Value} {result : Outcome (List Value)}
      (step : group.step plan true moment .running = .finish result) : Ends plan moment group
  | goesOn {group later : Group Request Value}
      (step : group.step plan true moment .running = .continue later ∨
        group.step plan true moment .running = .wait later)
      (ends : Ends plan moment later) : Ends plan moment group

/-- A group ends when somebody looks at a member that has come to nothing. -/
theorem step_of_running
    {request : Request}
    {phase : Phase}
    (found : group.members[group.place]? = some (.running request phase)) :
    group.step plan true moment .running = .finish (.error .canceled) := by
  rw [Group.step, found]
  simp only [step_running_of_cancelled]

/-- Whoever looks at a member that has succeeded goes on to the next one. -/
theorem step_of_succeeded
    {answer : Answer (Except Fault Value)}
    {value : Value}
    (found : group.members[group.place]? = some (.succeeded value)) :
    group.step plan cancelled moment answer = .continue group.advance := by
  rw [Group.step, found]

/-- A group ends at the first member from here on that has come to nothing. -/
theorem ends_of_running
    {distance : Nat}
    {request : Request}
    {phase : Phase}
    (found : group.members[group.place + distance]? = some (.running request phase)) :
    Ends plan moment group := by
  induction distance generalizing group with
  | zero => exact .finished (step_of_running found)
  | succ distance hypothesis =>
      obtain ⟨bound, -⟩ := List.getElem?_eq_some_iff.mp found
      have here := List.getElem?_eq_getElem (Nat.lt_of_le_of_lt (Nat.le_add_right ..) bound)
      cases current : group.members[group.place] with
      | running => exact .finished (step_of_running (here.trans (congrArg some current)))
      | succeeded =>
          refine .goesOn (.inl (step_of_succeeded (here.trans (congrArg some current))))
            (hypothesis ?_)
          rw [← found, advance, Nat.add_right_comm, Nat.add_assoc]

/-- Under a cancelled context every group ends. -/
theorem ends_of_cancelled (group : Group Request Value) : Ends plan moment group := by
  -- The induction is on the members from here on.
  induction left : group.members.length - group.place generalizing group with
  | zero =>
      have outside : group.members[group.place]? = none :=
        List.getElem?_eq_none (Nat.sub_eq_zero_iff_le.mp left)
      cases values : valuesOf? group.members with
      | some all => exact .finished (by rw [Group.step, outside, values])
      | none =>
          -- Another round begins, in which the group ends.
          obtain ⟨request, phase, present⟩ := exists_running_of_valuesOf?_eq_none values
          obtain ⟨place, found⟩ := List.mem_iff_getElem?.mp present
          refine .goesOn (.inr (by rw [Group.step, outside, values])) ?_
          rw [← Nat.zero_add place] at found
          exact ends_of_running found
  | succ count hypothesis =>
      have here := List.getElem?_eq_getElem (show group.place < group.members.length by omega)
      cases current : group.members[group.place] with
      | running => exact .finished (step_of_running (here.trans (congrArg some current)))
      | succeeded =>
          refine .goesOn (.inl (step_of_succeeded (here.trans (congrArg some current))))
            (hypothesis group.advance ?_)
          show group.members.length - (group.place + 1) = count
          omega

end Group
end Retry
end PubSub
