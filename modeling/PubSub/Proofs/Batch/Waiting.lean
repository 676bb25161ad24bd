import PubSub.Proofs.Batch.Accounting

/-!
# Every item has one caller

At most one caller waits for an accepted item, and only that caller takes the item back.
So a caller never waits for an item that was taken back: no caller is left without an
answer because its item was dropped.
-/

namespace PubSub
namespace Batcher

variable {Item : Type}

attribute [local simp] countP_cons_toNat

/-- Whether a task is a caller that waits for an item. -/
@[simp] def Activity.awaits (id : Nat) : Activity Item → Bool
  | .caller _ (.awaiting other) => other == id
  | _ => false

/-- The items that callers wait for are distinct, accepted, and not taken back. -/
structure Awaited (session : Session Item) : Prop where
  single : ∀ id, session.activities.countP (Activity.awaits id) ≤ 1
  known : ∀ id, 0 < session.activities.countP (Activity.awaits id) →
    id < session.batcher.nextId ∧ id ∉ session.batcher.withdrawn
  withdrawn : ∀ id ∈ session.batcher.withdrawn, id < session.batcher.nextId

namespace Awaited

variable {before after : Session Item}

theorem create (options : BatchOptions) : Awaited (.create options : Session Item) where
  single := by simp [Session.create]
  known := by simp [Session.create]
  withdrawn := by simp [Session.create, Batcher.create]

/-- The item that a caller waits for was accepted and not taken back. -/
theorem of_split
    (awaited : Awaited before)
    {context id : Nat}
    {others : List (Activity Item)}
    (split : before.activities.Perm (.caller context (.awaiting id) :: others)) :
    id < before.batcher.nextId ∧ id ∉ before.batcher.withdrawn := by
  apply awaited.known
  rw [split.countP_eq]
  simp

/-- Callers that leave make no difference. -/
theorem mono
    (awaited : Awaited before)
    (fewer : ∀ id,
      after.activities.countP (Activity.awaits id) ≤
        before.activities.countP (Activity.awaits id))
    (nextId : after.batcher.nextId = before.batcher.nextId)
    (withdrawn : after.batcher.withdrawn = before.batcher.withdrawn) : Awaited after where
  single id := Nat.le_trans (fewer id) (awaited.single id)
  known id waits := by
    rw [nextId, withdrawn]
    exact awaited.known id (Nat.lt_of_lt_of_le waits (fewer id))
  withdrawn := by rw [nextId, withdrawn]; exact awaited.withdrawn

/-- A caller whose item is accepted waits for an item that nobody has waited for. -/
theorem enqueued
    (awaited : Awaited before)
    (callers : ∀ id,
      after.activities.countP (Activity.awaits id) ≤
        before.activities.countP (Activity.awaits id) + (before.batcher.nextId == id).toNat)
    (nextId : after.batcher.nextId = before.batcher.nextId + 1)
    (withdrawn : after.batcher.withdrawn = before.batcher.withdrawn) : Awaited after where
  single id := by
    have count := callers id
    have single := awaited.single id
    by_cases new : before.batcher.nextId = id
    · have none : before.activities.countP (Activity.awaits id) = 0 := by
        by_contra some
        have below := (awaited.known id (by omega)).1
        omega
      rw [none, new, beq_self_eq_true] at count
      exact count
    · rw [beq_eq_false_iff_ne.mpr new] at count
      exact Nat.le_trans count single
  known id waits := by
    have count := callers id
    rw [nextId, withdrawn]
    by_cases new : before.batcher.nextId = id
    · refine ⟨by omega, fun member => ?_⟩
      have below := awaited.withdrawn id member
      omega
    · rw [beq_eq_false_iff_ne.mpr new] at count
      obtain ⟨below, kept⟩ := awaited.known id (Nat.lt_of_lt_of_le waits count)
      exact ⟨by omega, kept⟩
  withdrawn := by
    rw [nextId, withdrawn]
    exact fun id member => Nat.lt_succ_of_lt (awaited.withdrawn id member)

/-- The caller that takes its item back was the only one that waited for it. -/
theorem withdrew
    (awaited : Awaited before)
    {context id : Nat}
    {others : List (Activity Item)}
    (split : before.activities.Perm (.caller context (.awaiting id) :: others))
    (activities : after.activities = others)
    (nextId : after.batcher.nextId = before.batcher.nextId)
    (withdrawn : after.batcher.withdrawn = id :: before.batcher.withdrawn) : Awaited after where
  single other := by
    have single := awaited.single other
    rw [split.countP_eq, countP_cons_toNat] at single
    rw [activities]
    omega
  known other waits := by
    have single := awaited.single other
    have known := awaited.known other
    rw [split.countP_eq, countP_cons_toNat] at single known
    rw [activities] at waits
    obtain ⟨below, kept⟩ := known (by omega)
    have different : other ≠ id := by
      rintro rfl
      simp only [Activity.awaits, beq_self_eq_true, Bool.toNat_true] at single
      omega
    rw [nextId, withdrawn, List.mem_cons, not_or]
    exact ⟨below, different, kept⟩
  withdrawn := by
    rw [nextId, withdrawn]
    intro other member
    rcases List.mem_cons.mp member with rfl | earlier
    · exact (awaited.of_split split).1
    · exact awaited.withdrawn other earlier

theorem opening
    {middle : Session Item}
    {lingered : Bool}
    (opening : Opening before middle lingered)
    (awaited : Awaited before) : Awaited middle := by
  cases opening with
  | accepted split numbered =>
      refine awaited.enqueued (fun id => ?_) rfl rfl
      simp [split.countP_eq, numbered]
  | acceptedAlone => exact awaited.enqueued (by simp) rfl rfl
  | rang split => exact awaited.mono (by simp [split.countP_eq]) rfl rfl
  | flushBegan split => exact awaited.mono (by simp [split.countP_eq]) rfl rfl

theorem change
    (change : Change before after)
    (awaited : Awaited before) : Awaited after := by
  cases change with
  | handedOut opening dispatched =>
      exact (awaited.opening opening).mono (by simp) dispatched.nextId dispatched.withdrawn
  | arrived fresh => cases fresh <;> exact awaited.mono (by simp) rfl rfl
  | left split => exact awaited.mono (by simp [split.countP_eq]) rfl rfl
  | reordered same => exact awaited.mono (by simp [same.countP_eq]) rfl rfl
  | cancelled => exact { awaited with }
  | elapsed => exact { awaited with }
  | withdrew split =>
      exact awaited.withdrew split rfl (by simp [noteIdle_eq, without])
        (by simp [noteIdle_eq, without])
  | wentOn split _ handout =>
      exact awaited.mono (by simp [split.countP_eq]) handout.nextId handout.withdrawn
  | stopped split =>
      exact awaited.mono (by simp [split.countP_eq]) (by simp [noteIdle_eq]) (by simp [noteIdle_eq])
  | returned split | called split | ended split | gave split | listened split | looked split
  | woke split | flushed split =>
      exact awaited.mono (by simp [split.countP_eq]) rfl rfl

end Awaited

theorem awaited_sessionOf (options : BatchOptions) (moves : List (Move Item)) :
    Awaited (sessionOf options moves) :=
  sessionOf_induction (.create options) .change moves

end Batcher
end PubSub
