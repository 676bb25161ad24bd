import Mathlib.Data.List.Nodup
import PubSub.Broker.Feed

/-!
# What a look at a feed finds

A walk over the messages of a feed, said without the walk: the first messages that are due are
handed out, as many as there is room for; they stay with a new deadline, or go if the feed has
no deadlines; the others stay as they are. A walk that hands nothing out has passed every
message, so it knows the earliest of all deadlines.
-/

namespace PubSub

namespace HeldMessage

theorem isDue_eq_true_iff {held : HeldMessage} {now : Nat} :
    held.isDue now = true ↔ ∀ deadline, held.deadline = some deadline → deadline ≤ now := by
  cases present : held.deadline <;> simp [isDue, present]

theorem isDue_eq_false_iff {held : HeldMessage} {now : Nat} :
    held.isDue now = false ↔ ∃ deadline, held.deadline = some deadline ∧ now < deadline := by
  cases present : held.deadline <;> simp [isDue, present]

end HeldMessage

theorem exists_earlier_le_left {left right : Option Nat} {time : Nat} (present : left = some time) :
    ∃ first, earlier left right = some first ∧ first ≤ time := by
  subst present
  cases right with
  | none => exact ⟨time, rfl, Nat.le_refl _⟩
  | some other => exact ⟨min time other, rfl, Nat.min_le_left ..⟩

theorem exists_earlier_le_right {left right : Option Nat} {time : Nat}
    (present : right = some time) :
    ∃ first, earlier left right = some first ∧ first ≤ time := by
  subst present
  cases left with
  | none => exact ⟨time, rfl, Nat.le_refl _⟩
  | some other => exact ⟨min other time, rfl, Nat.min_le_right ..⟩

namespace Feed

variable {ackDeadline : Option Duration} {now room : Nat} {messages : List (Nat × HeldMessage)}

/-- The messages that a walk hands out: the first that are due, if there is room. -/
def ripe (now room : Nat) (messages : List (Nat × HeldMessage)) : List (Nat × HeldMessage) :=
  (messages.filter fun held => held.2.isDue now).take room

/-- A message as it is handed out; with a deadline it carries its number. -/
def handedOut (ackDeadline : Option Duration) (held : Nat × HeldMessage) : Envelope :=
  match ackDeadline with
  | some _ => { held.2.envelope with ackId := some (.broker held.1) }
  | none => held.2.envelope

/-- A message with a new deadline. -/
def renewed (now : Nat) (span : Duration) (held : Nat × HeldMessage) : Nat × HeldMessage :=
  (held.1, { held.2 with deadline := some (now + span.nanos) })

/-- The earliest of the deadlines of messages. -/
def earliest (messages : List (Nat × HeldMessage)) : Option Nat :=
  messages.foldr (fun held later => earlier held.2.deadline later) none

@[simp] theorem ripe_nil : ripe now room [] = [] := by simp [ripe]

theorem ripe_cons_of_isDue
    {held : Nat × HeldMessage}
    (due : held.2.isDue now = true) :
    ripe now (room + 1) (held :: messages) = held :: ripe now room messages := by
  simp [ripe, due]

theorem ripe_cons_of_not_isDue
    {held : Nat × HeldMessage}
    (notDue : held.2.isDue now = false) :
    ripe now room (held :: messages) = ripe now room messages := by
  simp [ripe, notDue]

theorem ripe_sublist : (ripe now room messages).Sublist messages :=
  (List.take_sublist ..).trans List.filter_sublist

theorem isDue_of_mem_ripe {held : Nat × HeldMessage} (member : held ∈ ripe now room messages) :
    held.2.isDue now = true :=
  (List.mem_filter.mp (List.mem_of_mem_take member)).2

/-- A message that is due is handed out if the walk reaches it before its limit. -/
theorem mem_ripe_of_reached
    {before after : List (Nat × HeldMessage)}
    {held : Nat × HeldMessage}
    (split : messages = before ++ held :: after)
    (due : held.2.isDue now = true)
    (reached : before.countP (fun other => other.2.isDue now) < room) :
    held ∈ ripe now room messages := by
  have due_messages : messages.filter (fun other => other.2.isDue now) =
      before.filter (fun other => other.2.isDue now) ++
        held :: after.filter fun other => other.2.isDue now := by
    simp [split, due]
  rw [List.countP_eq_length_filter] at reached
  obtain ⟨spare, rfl⟩ := Nat.exists_eq_add_of_lt reached
  rw [ripe, due_messages, Nat.add_assoc, List.take_length_add_append]
  exact List.mem_append_right _ (by simp)

/-- What is handed out are the first messages that are due. -/
theorem taken_scan :
    (scan ackDeadline now room messages).taken =
      (ripe now room messages).map (handedOut ackDeadline) := by
  induction messages generalizing room with
  | nil => simp [scan]
  | cons held rest hypothesis =>
      cases room with
      | zero => simp [scan, ripe]
      | succ room =>
          cases due : held.2.isDue now with
          | true =>
              cases ackDeadline <;>
                simp [scan, due, ripe_cons_of_isDue due, hypothesis, handedOut]
          | false => simp [scan, due, ripe_cons_of_not_isDue due, hypothesis]

/-- With deadlines, a message that is handed out gets a new one. -/
theorem left_scan_some
    {span : Duration}
    (distinct : (messages.map Prod.fst).Nodup) :
    (scan (some span) now room messages).left =
      messages.map fun held =>
        if held.1 ∈ (ripe now room messages).map Prod.fst then renewed now span held
        else held := by
  induction messages generalizing room with
  | nil => simp [scan]
  | cons held rest hypothesis =>
      rw [List.map_cons, List.nodup_cons] at distinct
      obtain ⟨fresh, distinct⟩ := distinct
      cases room with
      | zero => simp [scan, ripe]
      | succ room =>
          cases due : held.2.isDue now with
          | true =>
              rw [ripe_cons_of_isDue due]
              simp only [scan, due, if_true, hypothesis distinct, List.map_cons]
              rw [if_pos List.mem_cons_self]
              refine congrArg (renewed now span held :: ·) ?_
              refine List.map_congr_left fun other member => if_congr ?_ rfl rfl
              have differ : other.1 ≠ held.1 := fun same =>
                fresh (same ▸ List.mem_map_of_mem member)
              rw [List.mem_cons, or_iff_right differ]
          | false =>
              have passed : held.1 ∉ (ripe now (room + 1) rest).map Prod.fst := fun member =>
                fresh ((ripe_sublist.map Prod.fst).subset member)
              rw [ripe_cons_of_not_isDue due]
              simp only [scan, due, Bool.false_eq_true, if_false, hypothesis distinct,
                List.map_cons, passed]

theorem mem_left_scan_some_iff
    {span : Duration}
    {number : Nat}
    {held : HeldMessage}
    (distinct : (messages.map Prod.fst).Nodup) :
    (number, held) ∈ (scan (some span) now room messages).left ↔
      ∃ old, (number, old) ∈ messages ∧
        if number ∈ (ripe now room messages).map Prod.fst then
          { old with deadline := some (now + span.nanos) } = held
        else old = held := by
  rw [left_scan_some distinct, List.mem_map, Prod.exists]
  constructor
  · rintro ⟨id, old, member, same⟩
    split at same
    · cases same
      exact ⟨old, member, by rw [if_pos ‹_›]⟩
    · cases same
      exact ⟨held, member, by rw [if_neg ‹_›]⟩
  · rintro ⟨old, member, same⟩
    refine ⟨number, old, member, ?_⟩
    split at same
    · rw [if_pos ‹_›, renewed, same]
    · rw [if_neg ‹_›, same]

/-- Without deadlines, a message that is handed out is forgotten. -/
theorem left_scan_none (distinct : (messages.map Prod.fst).Nodup) :
    (scan none now room messages).left =
      messages.filter fun held => held.1 ∉ (ripe now room messages).map Prod.fst := by
  induction messages generalizing room with
  | nil => simp [scan]
  | cons held rest hypothesis =>
      rw [List.map_cons, List.nodup_cons] at distinct
      obtain ⟨fresh, distinct⟩ := distinct
      cases room with
      | zero => simp [scan, ripe]
      | succ room =>
          cases due : held.2.isDue now with
          | true =>
              rw [ripe_cons_of_isDue due, List.map_cons,
                List.filter_cons_of_neg (by simp)]
              simp only [scan, due, if_true, hypothesis distinct]
              refine List.filter_congr fun other member => ?_
              have differ : other.1 ≠ held.1 := fun same =>
                fresh (same ▸ List.mem_map_of_mem member)
              simp [differ]
          | false =>
              have passed : held.1 ∉ (ripe now (room + 1) rest).map Prod.fst := fun member =>
                fresh ((ripe_sublist.map Prod.fst).subset member)
              rw [ripe_cons_of_not_isDue due, List.filter_cons_of_pos (by simpa using passed)]
              simp only [scan, due, Bool.false_eq_true, if_false, hypothesis distinct]

/-- What a walk leaves was there before, or was due and has a new deadline. -/
theorem mem_of_mem_left_scan
    {held : Nat × HeldMessage}
    (member : held ∈ (scan ackDeadline now room messages).left) :
    held ∈ messages ∨
      ∃ old ∈ messages, ∃ span, old.2.isDue now = true ∧ held = renewed now span old := by
  induction messages generalizing room with
  | nil => simp [scan] at member
  | cons first rest hypothesis =>
      have later {room : Nat} (member : held ∈ (scan ackDeadline now room rest).left) :
          held ∈ first :: rest ∨
            ∃ old ∈ first :: rest, ∃ span,
              old.2.isDue now = true ∧ held = renewed now span old := by
        rcases hypothesis member with same | ⟨old, present, span, due, rfl⟩
        · exact .inl (.tail _ same)
        · exact .inr ⟨old, .tail _ present, span, due, rfl⟩
      cases room with
      | zero => exact .inl member
      | succ room =>
          cases due : first.2.isDue now with
          | true =>
              cases ackDeadline with
              | none => exact later (by simpa [scan, due] using member)
              | some span =>
                  simp only [scan, due, if_true, List.mem_cons] at member
                  rcases member with rfl | member
                  · exact .inr ⟨first, .head _, span, due, rfl⟩
                  · exact later member
          | false =>
              simp only [scan, due, Bool.false_eq_true, if_false, List.mem_cons] at member
              rcases member with rfl | member
              · exact .inl (.head _)
              · exact later member

/-- Nothing is handed out exactly if nothing is due. -/
theorem taken_scan_eq_nil_iff (positive : 0 < room) :
    (scan ackDeadline now room messages).taken = [] ↔
      ∀ held ∈ messages, held.2.isDue now = false := by
  rw [taken_scan, List.map_eq_nil_iff, ripe, List.take_eq_nil_iff, List.filter_eq_nil_iff]
  simp [Nat.ne_of_gt positive]

/-- A walk that hands nothing out leaves the messages alone and knows the earliest deadline. -/
theorem scan_of_forall_not_isDue
    (positive : 0 < room)
    (notDue : ∀ held ∈ messages, held.2.isDue now = false) :
    scan ackDeadline now room messages = ⟨[], messages, earliest messages⟩ := by
  obtain ⟨spare, rfl⟩ := Nat.exists_eq_add_of_lt positive
  induction messages with
  | nil => simp [scan, earliest]
  | cons held rest hypothesis =>
      rw [List.forall_mem_cons] at notDue
      simp only [scan, Nat.zero_add, notDue.1, Bool.false_eq_true, if_false] at hypothesis ⊢
      rw [hypothesis notDue.2]
      rfl

theorem exists_earliest_le
    {held : Nat × HeldMessage}
    {deadline : Nat}
    (member : held ∈ messages)
    (present : held.2.deadline = some deadline) :
    ∃ alarm, earliest messages = some alarm ∧ alarm ≤ deadline := by
  induction messages with
  | nil => exact absurd member List.not_mem_nil
  | cons first rest hypothesis =>
      rcases List.mem_cons.mp member with rfl | later
      · exact exists_earlier_le_left present
      · obtain ⟨alarm, found, le⟩ := hypothesis later
        have first_le : ∃ time, earlier first.2.deadline (earliest rest) = some time ∧
            time ≤ alarm := exists_earlier_le_right found
        obtain ⟨time, earliest, first_le⟩ := first_le
        exact ⟨time, earliest, Nat.le_trans first_le le⟩

theorem batchLimit_pos (requested : Nat) : 0 < batchLimit requested := by
  unfold batchLimit largestBatch
  omega

/-- A look that finds nothing finds that nothing is due, and leaves the messages alone. -/
theorem look_of_taken_eq_nil
    {feed : Feed}
    {requested : Nat}
    (found : (feed.look now requested).taken = []) :
    (∀ held ∈ feed.messages, held.2.isDue now = false) ∧
      feed.look now requested = ⟨[], feed.messages, earliest feed.messages⟩ := by
  have nothing := (taken_scan_eq_nil_iff (batchLimit_pos requested)).mp found
  exact ⟨nothing, scan_of_forall_not_isDue (batchLimit_pos requested) nothing⟩

end Feed
end PubSub
