import PubSub.Proofs.Batch.Accounting

/-!
# No item is lost, repeated or overtaken

The items of the batches taken off the queue, in the order in which they were taken,
and then the pending items, are the accepted items in the order of their acceptance
without those taken back. Whatever a move does, this stays so: a new item is the last of
both, handing out moves the border between batches and queue, and taking an item back
deletes it on both sides.
-/

namespace PubSub
namespace Batcher

variable {Item : Type}

attribute [local simp] List.filterMap_cons

/-- If the numbers of a queue are distinct, then only one item has a given number. -/
theorem eraseP_id_eq_filter
    {queue : List (Entry Item)}
    (distinct : (queue.map Entry.id).Nodup)
    (id : Nat) : queue.eraseP (·.id == id) = queue.filter (·.id ≠ id) := by
  induction queue with
  | nil => rfl
  | cons front rest hypothesis =>
      rw [List.map_cons, List.nodup_cons] at distinct
      by_cases same : front.id = id
      · have others : ∀ entry ∈ rest, entry.id ≠ id := by
          intro entry member equal
          exact distinct.1 (List.mem_map.mpr ⟨entry, member, equal.trans same.symm⟩)
        simpa [same] using (List.filter_eq_self.mpr (by simpa using others)).symm
      · simpa [same] using hypothesis distinct.2

/-- The batches and the queue hold the accepted items in order, without those taken back. -/
structure Conserved (session : Session Item) : Prop where
  queue :
    session.taken.flatten ++ session.batcher.pending =
      session.accepted.filter (·.id ∉ session.withdrawn)
  numbers : session.accepted.map Entry.id = List.range session.batcher.nextId
  withdrawn : ∀ id ∈ session.withdrawn, id < session.batcher.nextId

namespace Conserved

variable {session : Session Item}

theorem create (options : BatchOptions) : Conserved (.create options : Session Item) where
  queue := rfl
  numbers := rfl
  withdrawn := by simp [Session.create]

/-! ## Consequences -/

section

variable (conserved : Conserved session)

include conserved

theorem nodup_accepted : (session.accepted.map Entry.id).Nodup := by
  rw [conserved.numbers]
  exact List.nodup_range

/-- No number stands twice in the batches and the queue. -/
theorem nodup_queue : ((session.taken.flatten ++ session.batcher.pending).map Entry.id).Nodup := by
  rw [conserved.queue]
  exact conserved.nodup_accepted.sublist (List.filter_sublist.map _)

theorem nodup_taken : (session.taken.flatten.map Entry.id).Nodup := by
  have distinct := conserved.nodup_queue
  rw [List.map_append, List.nodup_append] at distinct
  exact distinct.1

theorem nodup_pending : (session.batcher.pending.map Entry.id).Nodup := by
  have distinct := conserved.nodup_queue
  rw [List.map_append, List.nodup_append] at distinct
  exact distinct.2.1

/-- A pending item is in no batch. -/
theorem id_ne
    {entry other : Entry Item}
    (taken : entry ∈ session.taken.flatten)
    (pending : other ∈ session.batcher.pending) : entry.id ≠ other.id := by
  have distinct := conserved.nodup_queue
  rw [List.map_append, List.nodup_append] at distinct
  exact distinct.2.2 _ (List.mem_map_of_mem taken) _ (List.mem_map_of_mem pending)

theorem mem_queue {entry : Entry Item} :
    entry ∈ session.taken.flatten ∨ entry ∈ session.batcher.pending ↔
      entry ∈ session.accepted ∧ entry.id ∉ session.withdrawn := by
  rw [← List.mem_append, conserved.queue, List.mem_filter, decide_eq_true_eq]

theorem id_lt {entry : Entry Item} (accepted : entry ∈ session.accepted) :
    entry.id < session.batcher.nextId := by
  have member := List.mem_map_of_mem (f := Entry.id) accepted
  rwa [conserved.numbers, List.mem_range] at member

theorem pending_id_lt {entry : Entry Item} (pending : entry ∈ session.batcher.pending) :
    entry.id < session.batcher.nextId :=
  conserved.id_lt (conserved.mem_queue.mp (.inr pending)).1

/-- A number below the next one is that of an accepted item. -/
theorem exists_accepted {id : Nat} (below : id < session.batcher.nextId) :
    ∃ entry ∈ session.accepted, entry.id = id := by
  rwa [← List.mem_range, ← conserved.numbers, List.mem_map] at below

end

/-! ## Every change conserves the items -/

section

variable {before after : Session Item} (conserved : Conserved before)

include conserved

/-- Only the queue, the numbers, and a part of the record matter. -/
theorem congr
    (pending : after.batcher.pending = before.batcher.pending)
    (nextId : after.batcher.nextId = before.batcher.nextId)
    (accepted : after.accepted = before.accepted)
    (withdrawn : after.withdrawn = before.withdrawn)
    (taken : after.taken = before.taken) : Conserved after where
  queue := by rw [pending, accepted, withdrawn, taken]; exact conserved.queue
  numbers := by rw [nextId, accepted]; exact conserved.numbers
  withdrawn := by rw [nextId, withdrawn]; exact conserved.withdrawn

/-- A new item is the last one of the queue and the last one accepted. -/
theorem enqueued
    {entry : Entry Item}
    (numbered : entry.id = before.batcher.nextId)
    (pending : after.batcher.pending = before.batcher.pending ++ [entry])
    (nextId : after.batcher.nextId = before.batcher.nextId + 1)
    (accepted : after.accepted = before.accepted ++ [entry])
    (withdrawn : after.withdrawn = before.withdrawn)
    (taken : after.taken = before.taken) : Conserved after where
  queue := by
    have new : entry.id ∉ before.withdrawn := fun member =>
      absurd (conserved.withdrawn _ member) (by omega)
    rw [pending, accepted, withdrawn, taken, List.filter_append, ← conserved.queue,
      ← List.append_assoc]
    simp only [List.filter_cons, new, not_false_eq_true, decide_true, if_true, List.filter_nil]
  numbers := by
    rw [accepted, nextId, List.range_succ, List.map_append, conserved.numbers, ← numbered]
    rfl
  withdrawn := by
    rw [withdrawn, nextId]
    exact fun id member => Nat.lt_succ_of_lt (conserved.withdrawn id member)

/-- Handing out moves items from the front of the queue to the end of the batches. -/
theorem handedOut
    {batches : List (List (Entry Item))}
    (handout : Handout before.batcher batches after.batcher)
    (accepted : after.accepted = before.accepted)
    (withdrawn : after.withdrawn = before.withdrawn)
    (taken : after.taken = before.taken ++ batches) : Conserved after where
  queue := by
    rw [taken, accepted, withdrawn, List.flatten_append, List.append_assoc, handout.queue]
    exact conserved.queue
  numbers := by rw [accepted, handout.nextId]; exact conserved.numbers
  withdrawn := by rw [withdrawn, handout.nextId]; exact conserved.withdrawn

/-- An item that is taken back is deleted from the queue and from the accepted items. -/
theorem withdrew
    {id : Nat}
    (present : ∃ entry ∈ before.batcher.pending, entry.id = id)
    (pending : after.batcher.pending = before.batcher.pending.eraseP (·.id == id))
    (nextId : after.batcher.nextId = before.batcher.nextId)
    (accepted : after.accepted = before.accepted)
    (withdrawn : after.withdrawn = before.withdrawn ++ [id])
    (taken : after.taken = before.taken) : Conserved after where
  queue := by
    -- No batch has the item, so it may be deleted from the batches and the queue together.
    have elsewhere : before.taken.flatten.filter (·.id ≠ id) = before.taken.flatten := by
      obtain ⟨entry, member, rfl⟩ := present
      refine List.filter_eq_self.mpr fun other otherMember => decide_eq_true ?_
      exact conserved.id_ne otherMember member
    have both : ∀ entry : Entry Item,
        decide (entry.id ∉ before.withdrawn ++ [id]) =
          (decide (entry.id ≠ id) && decide (entry.id ∉ before.withdrawn)) := by
      intro entry
      simp [not_or, and_comm]
    calc
      after.taken.flatten ++ after.batcher.pending
          = before.taken.flatten ++ before.batcher.pending.filter (·.id ≠ id) := by
            rw [taken, pending, eraseP_id_eq_filter conserved.nodup_pending]
      _ = (before.taken.flatten ++ before.batcher.pending).filter (·.id ≠ id) := by
            rw [List.filter_append, elsewhere]
      _ = after.accepted.filter (·.id ∉ after.withdrawn) := by
            rw [conserved.queue, List.filter_filter, accepted, withdrawn]
            exact List.filter_congr fun entry _ => (both entry).symm
  numbers := by rw [nextId, accepted]; exact conserved.numbers
  withdrawn := by
    rw [withdrawn, nextId]
    intro other member
    rcases List.mem_append.mp member with earlier | new
    · exact conserved.withdrawn other earlier
    · obtain ⟨entry, pending, same⟩ := present
      rw [List.mem_singleton.mp new, ← same]
      exact conserved.pending_id_lt pending

end

theorem opening
    {before middle : Session Item}
    {lingered : Bool}
    (opening : Opening before middle lingered)
    (conserved : Conserved before) : Conserved middle := by
  cases opening with
  | accepted _ numbered =>
      exact conserved.enqueued numbered rfl rfl (by simp) (by simp) (by simp)
  | acceptedAlone numbered =>
      exact conserved.enqueued numbered rfl rfl (by simp) (by simp) (by simp)
  | rang => exact conserved.congr rfl rfl rfl rfl rfl
  | flushBegan => exact conserved.congr rfl rfl rfl rfl rfl

theorem change
    {before after : Session Item}
    (change : Change before after)
    (conserved : Conserved before) : Conserved after := by
  cases change with
  | handedOut opening dispatched =>
      exact (conserved.opening opening).handedOut dispatched.toHandout (by simp) (by simp) (by simp)
  | withdrew _ _ present =>
      exact conserved.withdrew present (by simp [noteIdle_eq, without])
        (by simp [noteIdle_eq, without]) (by simp) (by simp) (by simp)
  | wentOn _ _ handout => exact conserved.handedOut handout (by simp) (by simp) (by simp)
  | stopped =>
      exact conserved.congr (by simp [noteIdle_eq]) (by simp [noteIdle_eq]) rfl rfl rfl
  | _ => exact conserved.congr rfl rfl (by simp) (by simp) (by simp)

end Conserved

/-- Every session conserves the items. -/
theorem conserved_sessionOf (options : BatchOptions) (moves : List (Move Item)) :
    Conserved (sessionOf options moves) :=
  sessionOf_induction (.create options) .change moves

/-- The items of the batches taken off the queue, followed by the pending items, are the accepted
items in the order of their acceptance, each once and without those taken back. The handler has been
called once with each of the batches, or is about to be. -/
theorem taken_append_pending_eq_accepted
    (options : BatchOptions)
    (moves : List (Move Item)) :
    let session := sessionOf options moves
    session.taken.flatten ++ session.batcher.pending =
        session.accepted.filter (·.id ∉ session.withdrawn) ∧
      (session.called ++ session.starting).Perm session.taken ∧
      (session.accepted.map Entry.id).Nodup ∧
      ((session.taken.flatten ++ session.batcher.pending).map Entry.id).Nodup ∧
      (∀ entry ∈ session.taken.flatten ++ session.batcher.pending,
        entry.id ∉ session.withdrawn) ∧
      ∀ id ∈ session.withdrawn, ∃ entry ∈ session.accepted, entry.id = id := by
  intro session
  have conserved : Conserved session := conserved_sessionOf options moves
  refine ⟨conserved.queue, (tallied_sessionOf options moves).perm_taken,
    conserved.nodup_accepted, conserved.nodup_queue, ?_, ?_⟩
  · intro entry member
    exact (conserved.mem_queue.mp (List.mem_append.mp member)).2
  · intro id member
    exact conserved.exists_accepted (conserved.withdrawn id member)

end Batcher
end PubSub
