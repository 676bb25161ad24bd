import PubSub.Proofs.Batch.Reaching

/-!
# What a batcher that is shut down still owes

A batcher that is shut down stays so. It hands out its items to the handlers that are at work, so
that none is pending without a handler, and a linger timer that goes off has nothing to hand out.
Once the last handler has stopped, every item that somebody waits for has its result, because a
caller that takes its item back waits no longer.
-/

namespace PubSub
namespace Batcher

variable {Item : Type}

attribute [local simp] List.filterMap_cons

/-! ## Batchers that are shut down -/

/-- A batcher is never opened again. -/
theorem isShutdown_of_change
    {before after : Session Item}
    (change : Change before after)
    (down : before.batcher.isShutdown = true) : after.batcher.isShutdown = true := by
  cases change with
  | handedOut opening dispatched =>
      refine dispatched.isShutdown.trans ?_
      cases opening with
      | flushBegan => rfl
      | _ => exact down
  | wentOn _ _ handout => exact handout.isShutdown.trans down
  | withdrew | stopped => simpa [noteIdle_eq, without] using down
  | _ => exact down

theorem isShutdown_of_changes
    {before after : Session Item}
    (changes : Relation.ReflTransGen Change before after)
    (down : before.batcher.isShutdown = true) : after.batcher.isShutdown = true := by
  induction changes with
  | refl => exact down
  | tail _ last hypothesis => exact isShutdown_of_change last hypothesis

/-- A batcher that is shut down hands out nothing more if nothing is pending while a handler may
start. -/
theorem lingerEnded_of_isShutdown
    {batcher : Batcher Item}
    (down : batcher.isShutdown = true)
    (drained : batcher.handlers < batcher.options.handlerLimit → batcher.pending = []) :
    batcher.lingerEnded =
      { batcher := { batcher with lingerArmed := false }, started := [], armed := false } := by
  have none : startBatches { batcher with lingerArmed := false } true =
      ([], { batcher with lingerArmed := false }) := by
    unfold startBatches
    split
    next free =>
      have exhausted :
          takeBatch { batcher with lingerArmed := false } true = none :=
        takeBatch_eq_none_iff.mpr (isReady_eq_false_iff.mpr (.inl (drained free)))
      split
      next => rfl
      next taken => exact absurd (taken.symm.trans exhausted) (by simp)
    next => rfl
  rw [lingerEnded, dispatch, none]
  simp [needsLinger, down]

/-- A batcher knows the items that were taken back. -/
theorem withdrawn_of_change
    {before after : Session Item}
    (change : Change before after)
    (same : before.batcher.withdrawn = before.withdrawn.reverse) :
    after.batcher.withdrawn = after.withdrawn.reverse := by
  cases change with
  | handedOut opening dispatched =>
      refine dispatched.withdrawn.trans ?_
      cases opening <;> simpa [enqueued] using same
  | wentOn _ _ handout => exact handout.withdrawn.trans (by simpa using same)
  | withdrew | stopped => simpa [noteIdle_eq, without] using same
  | _ => simpa [answer] using same

section Reached

variable {options : BatchOptions} {session : Session Item} (reached : Reached options session)

include reached

theorem withdrawn_of_reached : session.batcher.withdrawn = session.withdrawn.reverse :=
  @Reached.preserve Item options session
    (fun session => session.batcher.withdrawn = session.withdrawn.reverse)
    reached rfl fun _ => withdrawn_of_change

/-- Nothing is pending in a batcher that is shut down unless a handler is at work. -/
theorem exists_handler_of_pending
    (down : session.batcher.isShutdown = true)
    (pending : session.batcher.pending ≠ []) :
    ∃ handling, .handler handling ∈ session.activities := by
  have busy : session.batcher.handlers ≠ 0 := fun none =>
    pending ((prompt_of_reached reached).drained (none ▸ options.handlerLimit_pos) down)
  rw [(tallied_of_reached reached).handlers] at busy
  obtain ⟨activity, member, isHandler⟩ := List.countP_pos_iff.mp (Nat.pos_of_ne_zero busy)
  cases activity with
  | handler handling => exact ⟨handling, member⟩
  | _ => contradiction

/-- Without handlers, a batcher that is shut down is quiet. -/
theorem quiet_of_nobody
    (down : session.batcher.isShutdown = true)
    (nobody : ∀ handling, .handler handling ∉ session.activities) : Quiet session where
  isShutdown := down
  pending := by
    by_contra pending
    obtain ⟨handling, member⟩ := exists_handler_of_pending reached down pending
    exact nobody handling member
  handlers := by
    rw [(tallied_of_reached reached).handlers, List.countP_eq_zero]
    intro activity member
    cases activity with
    | handler handling => exact absurd member (nobody handling)
    | _ => simp

/-- In a quiet batcher, whoever waits for an item has its result at hand. -/
theorem Quiet.exists_answer
    (quiet : Quiet session)
    {context id : Nat}
    (waits : .caller context (.awaiting id) ∈ session.activities) :
    ∃ result, session.batcher.answer? id = some result := by
  have tallied := tallied_of_reached reached
  have conserved := conserved_of_reached reached
  have answered := answered_of_reached reached
  obtain ⟨below, kept⟩ := (awaited_of_reached reached).known id
    (List.countP_pos_iff.mpr ⟨_, waits, by simp⟩)
  obtain ⟨entry, accepted, rfl⟩ := conserved.exists_accepted below
  rcases quiet.settled tallied conserved accepted with withdrawn | ⟨ending, ended, inBatch⟩
  · rw [withdrawn_of_reached reached, List.mem_reverse] at kept
    contradiction
  · obtain ⟨result, -, receives⟩ := answered.ended ending ended
    rcases receives entry inBatch with given | ⟨left, member, -⟩
    · exact ⟨result, answer?_of_mem tallied conserved answered given⟩
    · have none := tallied.handlers.symm.trans quiet.handlers
      exact absurd (List.countP_eq_zero.mp none _ member) (by simp)

end Reached

end Batcher
end PubSub
