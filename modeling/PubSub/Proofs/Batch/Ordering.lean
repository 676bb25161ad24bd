import PubSub.Proofs.Batch.Reaching

/-!
# One batch after the other

If the options allow no more than one handler task at a time, then the batches come to their
answers in the order in which they were taken off the queue, so their items do in the order of
their acceptance.
-/

namespace PubSub
namespace Batcher

variable {Item : Type}

attribute [local simp] List.filterMap_cons

/-- The batch that a handler task has, if the handler has not yet come to an answer for it. -/
@[simp] def Activity.held? : Activity Item → Option (List (Entry Item))
  | .handler (.starting batch) => some batch
  | .handler (.working batch) => some batch
  | _ => none

/-- The batches for which the handler has not yet come to an answer. -/
@[simp] def Session.held (session : Session Item) : List (List (Entry Item)) :=
  session.activities.filterMap Activity.held?

/-- Only handler tasks hold batches. -/
theorem length_held_le (activities : List (Activity Item)) :
    (activities.filterMap Activity.held?).length ≤ activities.countP Activity.isHandler := by
  rw [List.length_filterMap_eq_countP]
  refine List.countP_mono_left fun activity _ holds => ?_
  cases activity with
  | handler => rfl
  | _ => contradiction

/-- Lists of one element at most have no order. -/
theorem eq_of_perm_of_length_le_one {Element : Type}
    {left right : List Element}
    (same : left.Perm right)
    (short : right.length ≤ 1) : left = right := by
  match right, short with
  | [], _ => exact same.eq_nil
  | [_], _ => exact same.eq_singleton

/-- All batches that were taken have come to an answer, in this order, but for the last. -/
def Serial (session : Session Item) : Prop :=
  session.ended.map Prod.fst ++ session.held = session.taken

namespace Serial

variable {before after : Session Item} {others : List (Activity Item)}

/-- What the other tasks hold when a handler task takes a turn. -/
theorem held_others
    {handling : Handling Item}
    (split : before.activities.Perm (.handler handling :: others))
    (single : before.activities.countP Activity.isHandler ≤ 1) :
    others.filterMap Activity.held? = [] := by
  have count := length_held_le others
  rw [split.countP_eq, countP_cons_toNat, Activity.isHandler, Bool.toNat_true] at single
  exact List.length_eq_zero_iff.mp (by omega)

/-- The order of the tasks makes no difference. -/
theorem held_of_split
    {activity : Activity Item}
    (split : before.activities.Perm (activity :: others))
    (single : before.activities.countP Activity.isHandler ≤ 1) :
    before.held = (activity :: others).filterMap Activity.held? := by
  refine eq_of_perm_of_length_le_one (split.filterMap _) ?_
  rw [← (split.filterMap Activity.held?).length_eq]
  exact Nat.le_trans (length_held_le _) single

/-- As long as no batch changes hands, nothing matters. -/
theorem congr
    (serial : Serial before)
    (ended : after.ended = before.ended)
    (held : after.held = before.held)
    (taken : after.taken = before.taken) : Serial after := by
  rw [Serial, ended, held, taken]
  exact serial

/-- The handler has come to an answer for the only batch that is held. -/
theorem came
    (serial : Serial before)
    {batch : List (Entry Item)}
    {answer : Answer (Outcome Unit)}
    (was : before.held = [batch])
    (ended : after.ended = before.ended ++ [(batch, answer)])
    (held : after.held = [])
    (taken : after.taken = before.taken) : Serial after := by
  rw [Serial, was] at serial
  rw [Serial, ended, held, taken, ← serial, List.map_append, List.append_nil]
  rfl

/-- Batches are taken when none is held. -/
theorem took
    (serial : Serial before)
    {batches : List (List (Entry Item))}
    (was : before.held = [])
    (ended : after.ended = before.ended)
    (held : after.held = batches)
    (taken : after.taken = before.taken ++ batches) : Serial after := by
  rw [Serial, was, List.append_nil] at serial
  rw [Serial, ended, held, taken, ← serial]

theorem opening
    {middle : Session Item}
    {lingered : Bool}
    (opening : Opening before middle lingered)
    (single : before.activities.countP Activity.isHandler ≤ 1)
    (serial : Serial before) : Serial middle := by
  cases opening with
  | accepted split | rang split | flushBegan split =>
      have held := held_of_split split single
      exact serial.congr (by simp) (by simpa using held.symm) (by simp)
  | acceptedAlone => exact serial.congr (by simp) rfl (by simp)

/-- The tasks that are started hold the batches they are started for. -/
theorem held_activities (dispatch : Dispatch Item) (now : Nat) :
    (Dispatch.activities dispatch now).filterMap Activity.held? = dispatch.started := by
  unfold Dispatch.activities
  cases dispatch.armed <;> simp [Function.comp_def]

theorem handOut
    {options : BatchOptions}
    {session : Session Item}
    {lingered : Bool}
    {dispatch : Dispatch Item}
    (dispatched : Dispatched session.batcher lingered dispatch)
    (limited : options.handlerLimit ≤ 1)
    (tallied : Tallied session)
    (counted : Counted options session)
    (serial : Serial session) : Serial (session.handOut dispatch) := by
  have count := dispatched.handlers
  have within := (counted.handOut dispatched).limited
  have holding := length_held_le session.activities
  rw [Session.batcher_handOut] at within
  rw [← tallied.handlers] at holding
  by_cases nothing : dispatch.started = []
  · exact serial.congr (by simp) (by simp [held_activities, nothing]) (by simp [nothing])
  · have some := List.length_pos_of_ne_nil nothing
    have none : session.held = [] := List.length_eq_zero_iff.mp (by simp only [Session.held]; omega)
    have held : (session.handOut dispatch).held = dispatch.started := by
      rw [Session.held] at none ⊢
      rw [Session.activities_handOut, List.filterMap_append, held_activities, none, List.append_nil]
    exact serial.took none (by simp) held (by simp)

theorem change
    {options : BatchOptions}
    (change : Change before after)
    (limited : options.handlerLimit ≤ 1)
    (tallied : Tallied before)
    (counted : Counted options before)
    (serial : Serial before) : Serial after := by
  have single : before.activities.countP Activity.isHandler ≤ 1 := by
    rw [← tallied.handlers]
    exact Nat.le_trans counted.limited limited
  cases change with
  | handedOut opening dispatched =>
      exact (serial.opening opening single).handOut dispatched limited (tallied.opening opening)
        (counted.opening opening)
  | called split =>
      have held := held_of_split split single
      exact serial.congr (by simp) (by simpa using held.symm) (by simp)
  | @ended batch answer result others split outcome =>
      have none := held_others split single
      have was := (held_of_split split single).trans (congrArg (_ :: ·) none)
      exact serial.came was (@List.filterMap_append ..) none (by simp)
  | wentOn split =>
      have none := held_others split single
      have was := (held_of_split split single).trans none
      exact serial.took was (by simp) (congrArg (_ :: ·) none) (by simp)
  | arrived fresh => cases fresh <;> exact serial.congr rfl (by simp) rfl
  | left split leaves =>
      have held := held_of_split split single
      cases leaves <;> exact serial.congr rfl (by simpa using held.symm) rfl
  | reordered same =>
      refine serial.congr rfl (eq_of_perm_of_length_le_one (same.symm.filterMap _) ?_) rfl
      exact Nat.le_trans (length_held_le _) single
  | cancelled | elapsed => exact serial
  | returned split | withdrew split | gave split | stopped split | listened split | looked split
  | woke split | flushed split =>
      have held := held_of_split split single
      exact serial.congr (by simp) (by simpa using held.symm) (by simp)

end Serial

section

variable {options : BatchOptions} {session : Session Item} (reached : Reached options session)

include reached

theorem serial_of_reached (limited : options.handlerLimit ≤ 1) : Serial session :=
  reached.preserve rfl fun earlier change =>
    .change change limited (tallied_of_reached earlier) (counted_of_reached earlier)

/-- One handler task at a time comes to its answers in the order in which the items were
accepted. -/
theorem ended_sublist_accepted (limited : options.handlerLimit ≤ 1) :
    (session.ended.map Prod.fst).flatten.Sublist session.accepted := by
  have conserved := conserved_of_reached reached
  have serial : session.ended.map Prod.fst ++ session.held = session.taken :=
    serial_of_reached reached limited
  calc
    (session.ended.map Prod.fst).flatten.Sublist
        ((session.ended.map Prod.fst).flatten ++ (session.held.flatten ++ session.batcher.pending)) :=
      List.sublist_append_left _ _
    _ = session.taken.flatten ++ session.batcher.pending := by
      rw [← serial, List.flatten_append, List.append_assoc]
    _ = session.accepted.filter (·.id ∉ session.withdrawn) := conserved.queue
    List.Sublist _ session.accepted := List.filter_sublist

end

end Batcher
end PubSub
