import Mathlib.Logic.Relation
import PubSub.Proofs.Batch.Answers
import PubSub.Proofs.Batch.Counters
import PubSub.Proofs.Batch.Draining
import PubSub.Proofs.Batch.Readiness

/-!
# Sessions that a batcher comes to

A batcher may be a part of something larger, whose tasks do to it what tasks on a batcher do.
Then it is not at work in moves of its own, but whatever happens to it is a `Change`. So what
holds of every session that a chain of changes leads to holds of every such part.
-/

namespace PubSub
namespace Batcher

variable {Item : Type}

/-- A session that a new batcher may come to. -/
abbrev Reached (options : BatchOptions) (session : Session Item) : Prop :=
  Relation.ReflTransGen Change (.create options) session

section Reached

variable {options : BatchOptions} {session : Session Item}

/-- What holds at first and survives every change of a session that is reached holds of every
session that is reached. -/
theorem Reached.preserve
    {holds : Session Item → Prop}
    (reached : Reached options session)
    (first : holds (.create options))
    (next : ∀ {before after : Session Item},
      Reached options before → Change before after → holds before → holds after) :
    holds session := by
  induction reached with
  | refl => exact first
  | tail earlier last hypothesis => exact next earlier last hypothesis

section

variable (reached : Reached options session)

include reached

theorem tallied_of_reached : Tallied session :=
  reached.preserve (.create options) fun _ => .change

theorem conserved_of_reached : Conserved session :=
  reached.preserve (.create options) fun _ => .change

theorem noticed_of_reached : Noticed session :=
  reached.preserve nofun fun earlier change => .change change (tallied_of_reached earlier)

theorem awaited_of_reached : Awaited session :=
  reached.preserve (.create options) fun _ => .change

theorem answered_of_reached : Answered session :=
  reached.preserve (.create options) fun _ => .change

theorem told_of_reached : Told session :=
  reached.preserve (.create options) fun earlier change =>
    .change change (tallied_of_reached earlier) (conserved_of_reached earlier)
      (awaited_of_reached earlier) (answered_of_reached earlier)

theorem prompt_of_reached : Prompt options session :=
  reached.preserve (.create options) fun _ => .change

theorem counted_of_reached : Counted options session :=
  reached.preserve (.create options) fun _ => .change

end

/-- A batcher that is quiet stays so. -/
theorem Quiet.of_changes
    {before after : Session Item}
    (quiet : Quiet before)
    (reached : Reached options before)
    (changes : Relation.ReflTransGen Change before after) : Quiet after := by
  induction changes with
  | refl => exact quiet
  | tail earlier last hypothesis =>
      exact (hypothesis.change last (tallied_of_reached (reached.trans earlier))).1

end Reached

/-! ## One task for each item -/

section Owners

variable {session : Session Item} (tallied : Tallied session) (conserved : Conserved session)

include tallied conserved

/-- An item is in one batch at most: its handler has come to an answer, is at work on it, or is
about to be called with it. -/
theorem owners_le_one (id : Nat) :
    session.ended.countP (fun ending => id ∈ ending.1.map Entry.id)
      + session.activities.countP (Activity.works fun batch => id ∈ batch.map Entry.id)
      + session.activities.countP (Activity.starts fun batch => id ∈ batch.map Entry.id) ≤ 1 := by
  have single : session.taken.countP (fun batch => id ∈ batch.map Entry.id) ≤ 1 := by
    have distinct : ((session.taken.map fun batch => batch).flatten.map Entry.id).Nodup := by
      rw [List.map_id']
      exact conserved.nodup_taken
    rw [List.countP_eq_length_filter]
    by_cases member : ∃ batch ∈ session.taken, id ∈ batch.map Entry.id
    · obtain ⟨batch, taken, has⟩ := member
      rw [filter_hasId_eq_singleton (fun batch => batch) distinct taken has]
      exact Nat.le_refl 1
    · rw [List.filter_eq_nil_iff.mpr fun batch taken has =>
        member ⟨batch, taken, of_decide_eq_true has⟩]
      exact Nat.zero_le 1
  have called := tallied.called fun batch => id ∈ batch.map Entry.id
  have ended := tallied.ended fun batch => id ∈ batch.map Entry.id
  omega

/-- Nobody but the handler task that is at work on a batch has to do with its items. -/
theorem apart_of_working
    {batch : List (Entry Item)}
    {others : List (Activity Item)}
    (split : session.activities.Perm (.handler (.working batch) :: others))
    {id : Nat}
    (has : id ∈ batch.map Entry.id) :
    (∀ other, .handler (.working other) ∈ others → id ∉ other.map Entry.id) ∧
      ∀ ending ∈ session.ended, id ∉ ending.1.map Entry.id := by
  have owners := owners_le_one tallied conserved id
  rw [split.countP_eq, countP_cons_toNat, Activity.works, decide_eq_true has, Bool.toNat_true]
    at owners
  refine ⟨fun other member hasToo => ?_, fun ending member hasToo => ?_⟩
  · have another : 0 < others.countP (Activity.works fun batch => id ∈ batch.map Entry.id) :=
      List.countP_pos_iff.mpr ⟨_, member, decide_eq_true hasToo⟩
    omega
  · have another : 0 < session.ended.countP fun ending => id ∈ ending.1.map Entry.id :=
      List.countP_pos_iff.mpr ⟨_, member, decide_eq_true hasToo⟩
    omega

/-- Before the handler is called with a batch, it was called with none of the items. -/
theorem uncalled_of_starting
    {batch : List (Entry Item)}
    {others : List (Activity Item)}
    (split : session.activities.Perm (.handler (.starting batch) :: others))
    {id : Nat}
    (has : id ∈ batch.map Entry.id) :
    ∀ other ∈ session.called, id ∉ other.map Entry.id := by
  intro other member hasToo
  have owners := owners_le_one tallied conserved id
  have ended := tallied.ended fun batch => id ∈ batch.map Entry.id
  have another : 0 < session.called.countP fun batch => id ∈ batch.map Entry.id :=
    List.countP_pos_iff.mpr ⟨_, member, decide_eq_true hasToo⟩
  have starts : 0 < session.activities.countP
      (Activity.starts fun batch => id ∈ batch.map Entry.id) :=
    List.countP_pos_iff.mpr ⟨_, split.mem_iff.mpr (.head _), decide_eq_true has⟩
  omega

omit conserved in
/-- A handler task that is at work on a batch was called with it. -/
theorem called_of_working
    {batch : List (Entry Item)}
    (member : .handler (.working batch) ∈ session.activities) : batch ∈ session.called :=
  tallied.perm_called.mem_iff.mp
    (List.mem_append_right _ (List.mem_filterMap.mpr ⟨_, member, rfl⟩))

end Owners

/-! ## Turns -/

@[simp] theorem startedBy_nil : startedBy ([] : List (BatchEffect Item)) = [] := rfl

@[simp] theorem takenBy_nil : takenBy ([] : List (BatchEffect Item)) = [] := rfl

/-- A caller looks at the time and at whether to attend to its context first. -/
theorem adding_step_congr
    {moment other : Moment}
    (sameTime : moment.now = other.now)
    (sameOrder : moment.contextFirst = other.contextFirst)
    (cancelled : Bool)
    (batcher : Batcher Item)
    (adding : Adding Item) :
    adding.step moment cancelled batcher = adding.step other cancelled batcher := by
  cases adding with
  | entering size item => simp only [Adding.step, dispatched, sameTime]
  | awaiting id => simp only [Adding.step, awaitAnswer, sameOrder]

/-- A linger timer looks at the time only. -/
theorem lingerStep_congr
    {moment other : Moment}
    (sameTime : moment.now = other.now)
    (batcher : Batcher Item)
    (wakeAt : Nat) : batcher.lingerStep moment wakeAt = batcher.lingerStep other wakeAt := by
  rw [lingerStep, lingerStep, dispatched, dispatched, sameTime]

/-- A flush looks at the time only. -/
theorem flush_step_congr
    {moment other : Moment}
    (sameTime : moment.now = other.now)
    (batcher : Batcher Item)
    (flush : Flush) : flush.step moment batcher = flush.step other batcher := by
  cases flush with
  | starting => rw [Flush.step, Flush.step, dispatched, dispatched, sameTime]
  | _ => rfl

end Batcher
end PubSub
