import PubSub.Event.Broadcast

/-!
# What a receiver has not heard

The backlog of a receiver is what was sent since its position, as far as it is kept. The receiver
hears it in order, one item after the other. A new item comes at the end of the backlog; if the
memory is full, the oldest item goes. A receiver that had not heard that one is behind, and is told
so before it hears anything else.
-/

namespace PubSub
namespace Broadcast

variable {Key Item : Type}

/-- The channel has a single receiver, which has passed so many items. -/
structure Serves (channel : Broadcast Key Item) (key : Key) (position : Nat) : Prop where
  receivers : channel.receivers = [(key, position)]
  room : 0 < channel.capacity
  bounded : channel.kept.length ≤ channel.capacity
  sent : channel.kept.length ≤ channel.sent
  passed : position ≤ channel.sent

/-- With a receiver, an item is kept; if the memory is full, the oldest one goes. -/
theorem Serves.publish_eq
    {channel : Broadcast Key Item}
    {key : Key}
    {position : Nat}
    (serves : channel.Serves key position)
    (item : Item) :
    channel.publish item =
      { channel with
        sent := channel.sent + 1
        kept :=
          if channel.kept.length = channel.capacity then channel.kept.tail ++ [item]
          else channel.kept ++ [item] } := by
  have room := serves.room
  have bounded := serves.bounded
  simp only [Broadcast.publish, serves.receivers, List.isEmpty_cons, Bool.false_eq_true, if_false,
    List.length_append, List.length_singleton]
  split
  next full =>
    have first : channel.kept.length + 1 - channel.capacity = 1 := by omega
    rw [first, List.drop_append_of_le_length (by omega), List.drop_one]
  next free =>
    have none : channel.kept.length + 1 - channel.capacity = 0 := by omega
    rw [none, List.drop_zero]

variable [DecidableEq Key]

/-- What a receiver has not heard, as far as it is kept. -/
def backlog (channel : Broadcast Key Item) (key : Key) : List Item :=
  match channel.position? key with
  | none => []
  | some position => channel.kept.drop (position - channel.oldest)

@[simp] theorem oldest_moveTo (channel : Broadcast Key Item) (key : Key) (position : Nat) :
    (channel.moveTo key position).oldest = channel.oldest := rfl

/-- Whether a receiver has missed items and was not told yet. -/
def isBehind (channel : Broadcast Key Item) (key : Key) : Bool :=
  match channel.position? key with
  | none => false
  | some position => position < channel.oldest

/-- Nobody closes a channel by receiving. -/
@[simp] theorem isOpen_receive (channel : Broadcast Key Item) (key : Key) :
    (channel.receive key).2.isOpen = channel.isOpen := by
  unfold receive
  split
  next => rfl
  next =>
    split
    next => rfl
    next => split <;> rfl

omit [DecidableEq Key] in
@[simp] theorem isOpen_publish (channel : Broadcast Key Item) (item : Item) :
    (channel.publish item).isOpen = channel.isOpen := by
  unfold publish
  split <;> rfl

namespace Serves

/-- The first receiver of a new channel. -/
theorem create (requested : Nat) (key : Key) :
    ((Broadcast.create requested : Broadcast Key Item).subscribe key).Serves key 0 where
  receivers := rfl
  room := Nat.pos_of_isPowerOfTwo (Nat.isPowerOfTwo_nextPowerOfTwo _)
  bounded := Nat.zero_le _
  sent := Nat.le_refl 0
  passed := Nat.le_refl 0

variable {channel : Broadcast Key Item} {key : Key} {position : Nat}

theorem position? (serves : channel.Serves key position) :
    channel.position? key = some position := by
  simp [Broadcast.position?, serves.receivers]

theorem backlog_eq (serves : channel.Serves key position) :
    channel.backlog key = channel.kept.drop (position - channel.oldest) := by
  rw [backlog, serves.position?]

theorem isBehind_eq (serves : channel.Serves key position) :
    channel.isBehind key = decide (position < channel.oldest) := by
  rw [isBehind, serves.position?]

/-- The receiver is moved, but not beyond the last item. -/
theorem moveTo
    (serves : channel.Serves key position)
    {later : Nat}
    (passed : later ≤ channel.sent) : (channel.moveTo key later).Serves key later where
  receivers := by simp [Broadcast.moveTo, serves.receivers]
  room := serves.room
  bounded := serves.bounded
  sent := serves.sent
  passed := passed

/-- Without its receiver, a channel has none. -/
theorem unsubscribe (serves : channel.Serves key position) :
    (channel.unsubscribe key).receivers = [] := by
  simp [Broadcast.unsubscribe, serves.receivers]

/-! ## Sending -/

variable {item : Item}

omit [DecidableEq Key] in
theorem publish (serves : channel.Serves key position) :
    (channel.publish item).Serves key position := by
  have room := serves.room
  have bounded := serves.bounded
  have sent := serves.sent
  rw [serves.publish_eq]
  refine ⟨serves.receivers, room, ?_, ?_, Nat.le_succ_of_le serves.passed⟩
  all_goals
    dsimp only
    split <;> simp only [List.length_append, List.length_tail, List.length_singleton] <;> omega

/-- An item is the last of the backlog. If the first one has to go for it, the receiver is
behind. -/
theorem backlog_publish (serves : channel.Serves key position) :
    (channel.publish item).backlog key = channel.backlog key ++ [item] ∧
        (channel.publish item).isBehind key = channel.isBehind key ∨
      channel.backlog key ≠ [] ∧
        (channel.publish item).backlog key = (channel.backlog key).tail ++ [item] ∧
        (channel.publish item).isBehind key = true := by
  have room := serves.room
  have sent := serves.sent
  have passed := serves.passed
  rw [serves.publish.backlog_eq, serves.publish.isBehind_eq, serves.backlog_eq, serves.isBehind_eq,
    serves.publish_eq]
  simp only [oldest]
  split
  next full =>
    obtain ⟨first, rest, kept⟩ := List.exists_cons_of_length_pos (full ▸ room)
    simp only [kept, List.length_cons, List.tail_cons, List.length_append, List.length_nil,
      Nat.zero_add, Nat.add_sub_add_right] at sent ⊢
    by_cases heard : channel.sent - rest.length ≤ position
    · obtain ⟨more, passes⟩ : ∃ more, position - (channel.sent - (rest.length + 1)) = more + 1 :=
        ⟨position - (channel.sent - rest.length), by omega⟩
      have same : position - (channel.sent - rest.length) = more := by omega
      refine .inl ⟨?_, by simp; omega⟩
      rw [passes, same, List.drop_succ_cons, List.drop_append_of_le_length (by omega)]
    · have none : position - (channel.sent - (rest.length + 1)) = 0 := by omega
      have still : position - (channel.sent - rest.length) = 0 := by omega
      exact .inr ⟨by simp [none], by simp [none, still], by simp; omega⟩
  next =>
    simp only [List.length_append, List.length_singleton, Nat.add_sub_add_right]
    exact .inl ⟨List.drop_append_of_le_length (by omega), rfl⟩

/-! ## Receiving -/

variable {after : Broadcast Key Item}

/-- An item that is received was the first of the backlog. -/
theorem receive_item
    (serves : channel.Serves key position)
    (received : channel.receive key = (.item item, after)) :
    after.Serves key (position + 1) ∧ channel.backlog key = item :: after.backlog key ∧
      channel.isBehind key = false ∧ after.isBehind key = false := by
  simp only [receive, serves.position?] at received
  split at received
  next => cases received
  next abreast =>
    split at received
    next found =>
      cases received
      obtain ⟨bound, here⟩ := List.getElem?_eq_some_iff.mp found
      have inside : position + 1 ≤ channel.sent := by
        have sent := serves.sent
        rw [oldest] at bound
        omega
      have moved := serves.moveTo inside
      have next : position + 1 - channel.oldest = position - channel.oldest + 1 :=
        Nat.succ_sub (Nat.le_of_not_lt abreast)
      rw [moved.backlog_eq, moved.isBehind_eq, serves.backlog_eq, serves.isBehind_eq,
        oldest_moveTo, next]
      refine ⟨moved, ?_, by simpa using abreast, by simp; omega⟩
      rw [List.drop_eq_getElem_cons bound, here]
      rfl
    next => split at received <;> cases received

/-- A receiver that is told how much it missed goes on with the oldest item. -/
theorem receive_lagged
    (serves : channel.Serves key position)
    {missed : Nat}
    (received : channel.receive key = (.lagged missed, after)) :
    after.Serves key channel.oldest ∧ after.backlog key = channel.backlog key ∧
      channel.isBehind key = true ∧ after.isBehind key = false := by
  simp only [receive, serves.position?] at received
  split at received
  next behind =>
    cases received
    have moved := serves.moveTo (show channel.oldest ≤ channel.sent from Nat.sub_le ..)
    have all : position - channel.oldest = 0 := Nat.sub_eq_zero_of_le (Nat.le_of_lt behind)
    rw [moved.backlog_eq, moved.isBehind_eq, serves.backlog_eq, serves.isBehind_eq, oldest_moveTo,
      all, Nat.sub_self]
    exact ⟨moved, rfl, decide_eq_true behind, by simp⟩
  next =>
    split at received
    next => cases received
    next => split at received <;> cases received

/-- A receiver that finds nothing has heard everything. -/
theorem backlog_of_receive_nothing
    (serves : channel.Serves key position)
    (nothing : (channel.receive key).1 = .empty ∨ (channel.receive key).1 = .closed) :
    channel.backlog key = [] ∧ channel.isBehind key = false := by
  simp only [receive, serves.position?] at nothing
  split at nothing
  next => simp at nothing
  next abreast =>
    split at nothing
    next => simp at nothing
    next absent =>
      rw [serves.backlog_eq, serves.isBehind_eq]
      exact ⟨List.drop_eq_nil_of_le (List.getElem?_eq_none_iff.mp absent), by simpa using abreast⟩

/-- A receiver is not turned away while somebody may send. -/
theorem receive_ne_closed
    (serves : channel.Serves key position)
    (opened : channel.isOpen = true) : (channel.receive key).1 ≠ .closed := by
  simp only [receive, serves.position?]
  split
  next => simp
  next => split <;> simp

end Serves
end Broadcast
end PubSub
