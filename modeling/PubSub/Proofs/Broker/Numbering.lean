import PubSub.Proofs.Broker.Change

/-!
# The numbers of messages

The broker numbers messages without gaps, and no two get the same number. A feed holds its
messages in the order of their numbers, so it holds at most one of each number.
-/

namespace PubSub

/-- Messages are in the order of their numbers, all of which have been given out. -/
structure Feed.IsNumbered (feed : Feed) (nextId : Nat) : Prop where
  increasing : (feed.messages.map Prod.fst).Pairwise (· < ·)
  issued : ∀ number ∈ feed.messages.map Prod.fst, number < nextId

namespace Feed

variable {feed after : Feed} {nextId : Nat}

theorem keys_add (first : Nat) (envelopes : List Envelope) :
    (feed.add first envelopes).messages.map Prod.fst =
      feed.messages.map Prod.fst ++ List.range' first envelopes.length := by
  rw [add, List.map_append, List.map_map, ← List.zipIdx_map_snd first envelopes]
  rfl

@[simp] theorem keys_release (numbers : List Nat) :
    (feed.release numbers).messages.map Prod.fst = feed.messages.map Prod.fst := by
  rw [release, List.map_map]
  refine List.map_congr_left fun held _ => ?_
  simp only [Function.comp_apply]
  split <;> rfl

theorem keys_left_scan_some
    {span : Duration}
    {now room : Nat}
    {messages : List (Nat × HeldMessage)}
    (distinct : (messages.map Prod.fst).Nodup) :
    (scan (some span) now room messages).left.map Prod.fst = messages.map Prod.fst := by
  rw [left_scan_some distinct, List.map_map]
  refine List.map_congr_left fun held _ => ?_
  simp only [Function.comp_apply, renewed]
  split <;> rfl

theorem mem_messages_add_iff
    {first number : Nat}
    {envelopes : List Envelope}
    {held : HeldMessage} :
    (number, held) ∈ (feed.add first envelopes).messages ↔
      (number, held) ∈ feed.messages ∨
        ∃ envelope, first ≤ number ∧ envelopes[number - first]? = some envelope ∧
          held = { envelope := { envelope with ackId := none } } := by
  simp only [add, List.mem_append, List.mem_map, Prod.exists,
    List.mem_zipIdx_iff_le_and_getElem?_sub, Prod.mk.injEq]
  refine or_congr_right ⟨?_, ?_⟩
  · rintro ⟨envelope, id, ⟨le, here⟩, rfl, rfl⟩
    exact ⟨envelope, le, here, rfl⟩
  · rintro ⟨envelope, le, here, rfl⟩
    exact ⟨envelope, number, ⟨le, here⟩, rfl, rfl⟩

namespace IsNumbered

theorem nodup (numbered : feed.IsNumbered nextId) : (feed.messages.map Prod.fst).Nodup :=
  numbered.increasing.imp Nat.ne_of_lt

theorem empty (ackDeadline : Option Duration) :
    ({ ackDeadline } : Feed).IsNumbered nextId :=
  ⟨.nil, by simp⟩

/-- A feed that holds no more than before stays numbered. -/
theorem of_sublist
    (numbered : feed.IsNumbered nextId)
    (fewer : (after.messages.map Prod.fst).Sublist (feed.messages.map Prod.fst)) :
    after.IsNumbered nextId :=
  ⟨numbered.increasing.sublist fewer, fun number member =>
    numbered.issued number (fewer.subset member)⟩

theorem add (numbered : feed.IsNumbered nextId) (envelopes : List Envelope) :
    (feed.add nextId envelopes).IsNumbered (nextId + envelopes.length) := by
  constructor
  · rw [keys_add, List.pairwise_append]
    refine ⟨numbered.increasing, List.pairwise_lt_range' 1, fun old before new fresh => ?_⟩
    exact Nat.lt_of_lt_of_le (numbered.issued old before) (List.mem_range'_1.mp fresh).1
  · intro number member
    rw [keys_add, List.mem_append, List.mem_range'_1] at member
    rcases member with old | fresh
    · exact Nat.lt_add_right _ (numbered.issued number old)
    · exact fresh.2

theorem mono
    {later : Nat}
    (numbered : feed.IsNumbered nextId)
    (le : nextId ≤ later) :
    feed.IsNumbered later :=
  ⟨numbered.increasing, fun number member =>
    Nat.lt_of_lt_of_le (numbered.issued number member) le⟩

/-- A look at a feed keeps no number that was not there. -/
theorem keys_look_sublist (numbered : feed.IsNumbered nextId) (now requested : Nat) :
    ((feed.look now requested).left.map Prod.fst).Sublist (feed.messages.map Prod.fst) := by
  rw [look]
  cases feed.ackDeadline with
  | none =>
      rw [left_scan_none numbered.nodup]
      exact List.filter_sublist.map Prod.fst
  | some span =>
      rw [keys_left_scan_some numbered.nodup]

end IsNumbered
end Feed

namespace Broker

/-- The numbers that a record gives out. -/
def Record.numbers : Record → List Nat
  | .sent first envelopes => List.range' first envelopes.length
  | _ => []

/-- Messages are numbered from zero on, without gaps and each with a number of its own. -/
theorem numbers_eq_range (moves : List Move) :
    (sessionOf moves).records.flatMap Record.numbers =
      List.range (sessionOf moves).broker.nextId := by
  refine sessionOf_induction (motive := fun session =>
    session.records.flatMap Record.numbers = List.range session.broker.nextId) rfl ?_ moves
  intro before after change numbered
  cases change with
  | sent envelopes =>
      rw [List.flatMap_append, numbered, deliver, List.range_add]
      simp [Record.numbers, List.range'_eq_map_range]
  | attached | acknowledged | refused | handedOut | failed =>
      simpa [Record.numbers, attach, setFeed] using numbered
  | foundNothing | opened | began | left | closed | feedClosed | cancelled | elapsed =>
      exact numbered

end Broker
end PubSub
