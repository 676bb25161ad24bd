import Mathlib.Data.List.TakeWhile
import PubSub.Proofs.Broker.History
import PubSub.Proofs.Broker.Numbering

/-!
# What a feed with deadlines holds

At any time a feed with deadlines holds of every message what its history leads to, and the
history is lawful. So a message stays under its number until it is acknowledged; it is not handed
out again before its deadline has passed or it was refused; then it is due, and a receiver whose
look reaches it returns it.
-/

namespace PubSub
namespace Broker

/-- What is known of the feed at a place at any time. -/
structure Session.Orderly (session : Session) (place : Nat) : Prop where
  attached_iff : (∃ feed, session.broker.feed? place = some feed) ↔
    ∃ record ∈ session.records, record.attaches place = true
  numbered : ∀ feed, session.broker.feed? place = some feed →
    feed.IsNumbered session.broker.nextId

section Aside

variable {place number : Nat} {record : Record}

theorem Record.IsAside.attaches_eq_false (apart : record.IsAside place) :
    record.attaches place = false := by
  cases record <;> simp_all [IsAside, attaches]

theorem Record.IsAside.occurrences_eq_nil (apart : record.IsAside place) :
    record.occurrences place number = [] := by
  rcases record with _ | _ | ⟨other, time, _ | envelopes⟩ | _ | _ <;>
    simp_all [IsAside, occurrences]

end Aside

variable {before after session : Session} {place number : Nat} {span : Duration} {feed : Feed}

/-- What happens after a feed is attached has happened since. -/
theorem Session.Orderly.since_eq_append
    {happened : List Record}
    (orderly : before.Orderly place)
    (present : before.broker.feed? place = some feed)
    (records : after.records = before.records ++ happened) :
    since place after.records = since place before.records ++ happened := by
  obtain ⟨record, member, attaches⟩ := orderly.attached_iff.mp ⟨feed, present⟩
  have started : ¬ (before.records.dropWhile fun record => !record.attaches place).isEmpty := by
    rw [List.isEmpty_iff, List.dropWhile_eq_nil_iff]
    intro none
    simpa [attaches] using none record member
  rw [since, records, List.dropWhile_append, if_neg started]
  rfl

/-- A feed that is attached has no past. -/
theorem Session.Orderly.since_of_created
    (orderly : before.Orderly place)
    (absent : before.broker.feed? place = none)
    (records : after.records = before.records ++ [.attached place]) :
    since place after.records = [.attached place] := by
  have unattached : ∀ record ∈ before.records, record.attaches place = false := by
    intro record member
    by_contra attaches
    obtain ⟨feed, here⟩ := orderly.attached_iff.mpr ⟨record, member, by simpa using attaches⟩
    exact Option.some_ne_none _ (here.symm.trans absent)
  rw [since, records, List.dropWhile_append_of_pos (by simpa using unattached)]
  simp [Record.attaches]

/-- What happens after a feed is attached is added to the histories of its messages. -/
theorem Session.Orderly.history_eq_append
    {happened : List Record}
    (orderly : before.Orderly place)
    (present : before.broker.feed? place = some feed)
    (records : after.records = before.records ++ happened)
    (number : Nat) :
    after.history place number =
      before.history place number ++ happened.flatMap (Record.occurrences place number) := by
  rw [Session.history, orderly.since_eq_append present records, List.flatMap_append]
  rfl

/-- The feed at a place has no message that it did not have before. -/
theorem Session.Orderly.fewer
    {earlier later : Feed}
    {happened : List Record}
    (orderly : before.Orderly place)
    (known : before.broker.feed? place = some earlier)
    (present : after.broker.feed? place = some later)
    (records : after.records = before.records ++ happened)
    (nextId : after.broker.nextId = before.broker.nextId)
    (fewer : (later.messages.map Prod.fst).Sublist (earlier.messages.map Prod.fst)) :
    after.Orderly place := by
  constructor
  · obtain ⟨record, member, attaches⟩ := orderly.attached_iff.mp ⟨earlier, known⟩
    rw [records]
    exact iff_of_true ⟨later, present⟩ ⟨record, List.mem_append_left _ member, attaches⟩
  · rintro feed same
    obtain rfl := Option.some.inj (present.symm.trans same)
    rw [nextId]
    exact (orderly.numbered earlier known).of_sublist fewer

/-- What a passage leaves to the feed at a place. -/
theorem Session.Orderly.passage (orderly : before.Orderly place)
    (passage : Passage place before after) : after.Orderly place := by
  cases passage with
  | created absent ackDeadline present records nextId =>
      constructor
      · simp [present, records, Record.attaches]
      · rintro feed same
        obtain rfl := Option.some.inj (present.symm.trans same)
        exact .empty ackDeadline
  | sent envelopes present records nextId =>
      constructor
      · simpa [present, records, Record.attaches] using orderly.attached_iff
      · rintro feed same
        rw [present, Option.map_eq_some_iff] at same
        obtain ⟨earlier, here, rfl⟩ := same
        rw [nextId]
        split
        · exact (orderly.numbered earlier here).mono (Nat.le_add_right ..)
        · exact (orderly.numbered earlier here).add envelopes
  | forgot earlier numbers present records nextId =>
      exact orderly.fewer earlier present records nextId (List.filter_sublist.map Prod.fst)
  | released earlier numbers present records nextId =>
      exact orderly.fewer earlier present records nextId (by rw [Feed.keys_release])
  | @handedOut feed earlier requested present records nextId =>
      exact orderly.fewer earlier present records nextId
        ((orderly.numbered feed earlier).keys_look_sublist before.now requested)
  | closed earlier present records nextId =>
      exact orderly.fewer earlier present (records.trans (List.append_nil _).symm) nextId
        (List.Sublist.refl _)
  | aside present records apart nextId =>
      constructor
      · rw [present, orderly.attached_iff, records]
        simp only [List.mem_append, or_and_right, exists_or]
        refine (or_iff_left ?_).symm
        rintro ⟨record, member, attaches⟩
        rw [(apart record member).attaches_eq_false] at attaches
        cases attaches
      · rintro feed same
        rw [nextId]
        exact orderly.numbered feed (present ▸ same)

theorem orderly (moves : List Move) (place : Nat) : (sessionOf moves).Orderly place :=
  sessionOf_induction (motive := (Session.Orderly · place))
    ⟨by simp [feed?], by simp [feed?]⟩
    (fun change orderly => orderly.passage (change.passage place)) moves

/-! ## What operations do to one message -/

end Broker

namespace Feed

open Broker

/-- A feed holds of the message of a number what its history leads to. -/
structure Follows
    (feed : Feed)
    (nextId number : Nat)
    (span : Duration)
    (history : List Occurrence) : Prop where
  lawful : Lawful span number history
  fresh : nextId ≤ number → ∀ occurrence ∈ history, occurrence.isArrival = false
  holds : ∀ held, (number, held) ∈ feed.messages ↔ standing span history = some held

theorem filter_handedOut {span : Duration} {number : Nat} {messages : List (Nat × HeldMessage)} :
    (messages.map (handedOut (some span))).filter
        (fun envelope => envelope.ackId = some (.broker number)) =
      (messages.filter fun held => held.1 = number).map (handedOut (some span)) := by
  rw [List.filter_map]
  refine congrArg (List.map _) (List.filter_congr fun held _ => ?_)
  simp [handedOut]

theorem filter_fst_eq_singleton
    {number : Nat}
    {held : HeldMessage}
    {messages : List (Nat × HeldMessage)}
    (distinct : (messages.map Prod.fst).Nodup)
    (member : (number, held) ∈ messages) :
    (messages.filter fun other => other.1 = number) = [(number, held)] := by
  obtain ⟨before, after, rfl⟩ := List.append_of_mem member
  rw [List.map_append, List.map_cons, List.nodup_middle, List.nodup_cons, List.mem_append,
    not_or] at distinct
  obtain ⟨⟨absentBefore, absentAfter⟩, -⟩ := distinct
  rw [List.filter_append, List.filter_cons_of_pos (by simp), List.filter_eq_nil_iff.mpr,
    List.filter_eq_nil_iff.mpr, List.nil_append]
  · rintro other member same
    exact absentAfter (List.mem_map.mpr ⟨other, member, by simpa using same⟩)
  · rintro other member same
    exact absentBefore (List.mem_map.mpr ⟨other, member, by simpa using same⟩)

namespace Follows

variable {feed : Feed} {nextId number place : Nat} {span : Duration} {history : List Occurrence}

theorem empty : ({ ackDeadline := some span } : Feed).Follows nextId number span [] :=
  ⟨.nil, by simp, by simp⟩

theorem add
    (follows : feed.Follows nextId number span history)
    (numbered : feed.IsNumbered nextId)
    (envelopes : List Envelope) :
    (feed.add nextId envelopes).Follows (nextId + envelopes.length) number span
      (history ++ (Record.sent nextId envelopes).occurrences place number) := by
  by_cases arrives : ∃ envelope, nextId ≤ number ∧ envelopes[number - nextId]? = some envelope
  · obtain ⟨envelope, le, here⟩ := arrives
    have occurrences : (Record.sent nextId envelopes).occurrences place number =
        [.arrived envelope] := by
      simp [Record.occurrences, le, here]
    have absent : ∀ held, (number, held) ∉ feed.messages := fun held member =>
      Nat.not_lt.mpr le (numbered.issued number (List.mem_map_of_mem member))
    rw [occurrences]
    refine ⟨follows.lawful.arrived (follows.fresh le) envelope, fun beyond => ?_, fun held => ?_⟩
    · have inside := (List.getElem?_eq_some_iff.mp here).1
      omega
    · simp [mem_messages_add_iff, absent, le, here, Occurrence.apply, eq_comm]
  · have occurrences : (Record.sent nextId envelopes).occurrences place number = [] := by
      simp only [Record.occurrences, ite_eq_right_iff]
      intro le
      rw [Option.eq_none_iff_forall_ne_some.mpr fun envelope here => arrives ⟨envelope, le, here⟩]
      rfl
    rw [occurrences, List.append_nil]
    refine ⟨follows.lawful, fun beyond => follows.fresh (by omega), fun held => ?_⟩
    rw [mem_messages_add_iff, or_iff_left, follows.holds]
    rintro ⟨envelope, le, here, -⟩
    exact arrives ⟨envelope, le, here⟩

theorem forget (follows : feed.Follows nextId number span history) (numbers : List Nat) :
    (feed.forget numbers).Follows nextId number span
      (history ++ (Record.acknowledged place numbers).occurrences place number) := by
  by_cases named : number ∈ numbers
  · simp only [Record.occurrences, named, and_self, if_true]
    refine ⟨follows.lawful.acknowledged, fun le => ?_, fun held => ?_⟩
    · simpa [Occurrence.isArrival, or_imp, forall_and] using follows.fresh le
    · simp [Feed.forget, named, Occurrence.apply]
  · simp only [Record.occurrences, named, and_false, if_false, List.append_nil]
    refine ⟨follows.lawful, follows.fresh, fun held => ?_⟩
    simpa [Feed.forget, named] using follows.holds held

theorem release (follows : feed.Follows nextId number span history) (numbers : List Nat) :
    (feed.release numbers).Follows nextId number span
      (history ++ (Record.refused place numbers).occurrences place number) := by
  by_cases named : number ∈ numbers
  · simp only [Record.occurrences, named, and_self, if_true]
    refine ⟨follows.lawful.refused, fun le => ?_, fun held => ?_⟩
    · simpa [Occurrence.isArrival, or_imp, forall_and] using follows.fresh le
    · rw [standing_append_singleton, Occurrence.apply, Option.map_eq_some_iff, Feed.release,
        List.mem_map]
      constructor
      · rintro ⟨⟨id, old⟩, member, same⟩
        split at same
        · cases same
          exact ⟨old, (follows.holds old).mp member, rfl⟩
        · cases same
          contradiction
      · rintro ⟨old, present, rfl⟩
        exact ⟨(number, old), (follows.holds old).mpr present, if_pos named⟩
  · simp only [Record.occurrences, named, and_false, if_false, List.append_nil]
    refine ⟨follows.lawful, follows.fresh, fun held => ?_⟩
    rw [← follows.holds held, Feed.release, List.mem_map]
    constructor
    · rintro ⟨⟨id, old⟩, member, same⟩
      split at same
      · cases same
        contradiction
      · cases same
        exact member
    · intro member
      exact ⟨(number, held), member, if_neg named⟩

theorem look
    (follows : feed.Follows nextId number span history)
    (numbered : feed.IsNumbered nextId)
    (deadlines : feed.ackDeadline = some span)
    (now requested : Nat) :
    ({ feed with messages := (feed.look now requested).left } : Feed).Follows nextId number span
      (history ++ (Record.received place now (.ok (feed.look now requested).taken)).occurrences
        place number) := by
  have distinct : ((ripe now (batchLimit requested) feed.messages).map Prod.fst).Nodup :=
    numbered.nodup.sublist (ripe_sublist.map Prod.fst)
  simp only [Feed.look, deadlines, taken_scan, Record.occurrences, if_true, filter_handedOut]
  by_cases found : number ∈ (ripe now (batchLimit requested) feed.messages).map Prod.fst
  · obtain ⟨⟨id, held⟩, ripe, rfl⟩ := List.mem_map.mp found
    have present := (follows.holds held).mp (ripe_sublist.subset ripe)
    rw [filter_fst_eq_singleton distinct ripe]
    have lawful := follows.lawful.handedOut present (isDue_of_mem_ripe ripe)
    refine ⟨lawful, fun le => ?_, fun other => ?_⟩
    · simpa [Occurrence.isArrival, or_imp, forall_and] using follows.fresh le
    · rw [List.map_singleton, List.map_singleton, standing_append_singleton, present,
        mem_left_scan_some_iff numbered.nodup]
      simp [found, follows.holds, present, Occurrence.apply]
  · have unfound : ((ripe now (batchLimit requested) feed.messages).filter
        fun held => held.1 = number) = [] := by
      rw [List.filter_eq_nil_iff]
      rintro held member same
      exact found (List.mem_map.mpr ⟨held, member, by simpa using same⟩)
    rw [unfound, List.map_nil, List.map_nil, List.append_nil]
    refine ⟨follows.lawful, follows.fresh, fun held => ?_⟩
    rw [mem_left_scan_some_iff numbered.nodup, ← follows.holds]
    simp [found]

end Follows
end Feed

namespace Broker

variable {before after : Session} {place : Nat} {span : Duration}

/-- Whatever happens, an open feed with deadlines holds what the histories lead to. -/
theorem Passage.follows
    {feed : Feed}
    (passage : Passage place before after)
    (orderly : before.Orderly place)
    (hypothesis : ∀ feed, before.broker.feed? place = some feed → feed.ackDeadline = some span →
      feed.isClosed = false → ∀ number,
        feed.Follows before.broker.nextId number span (before.history place number))
    (present : after.broker.feed? place = some feed)
    (deadlines : feed.ackDeadline = some span)
    (isOpen : feed.isClosed = false)
    (number : Nat) :
    feed.Follows after.broker.nextId number span (after.history place number) := by
  cases passage with
  | created absent ackDeadline created records nextId =>
      obtain rfl := Option.some.inj (created.symm.trans present)
      have history : after.history place number = [] := by
        rw [Session.history, orderly.since_of_created absent records]
        rfl
      rw [history]
      cases deadlines
      exact .empty
  | sent envelopes added records nextId =>
      obtain ⟨feed, earlier, rfl⟩ := Option.map_eq_some_iff.mp (added.symm.trans present)
      cases closed : feed.isClosed with
      | true => simp [closed] at isOpen
      | false =>
          simp only [closed, Bool.false_eq_true, if_false] at deadlines ⊢
          rw [orderly.history_eq_append earlier records, nextId, List.flatMap_singleton]
          exact (hypothesis feed earlier deadlines closed number).add
            (orderly.numbered feed earlier) envelopes
  | @forgot feed earlier numbers forgotten records nextId =>
      obtain rfl := Option.some.inj (forgotten.symm.trans present)
      rw [orderly.history_eq_append earlier records, nextId, List.flatMap_singleton]
      exact (hypothesis feed earlier deadlines isOpen number).forget numbers
  | @released feed earlier numbers released records nextId =>
      obtain rfl := Option.some.inj (released.symm.trans present)
      rw [orderly.history_eq_append earlier records, nextId, List.flatMap_singleton]
      exact (hypothesis feed earlier deadlines isOpen number).release numbers
  | @handedOut feed earlier requested looked records nextId =>
      obtain rfl := Option.some.inj (looked.symm.trans present)
      rw [orderly.history_eq_append earlier records, nextId, List.flatMap_singleton]
      exact (hypothesis feed earlier deadlines isOpen number).look
        (orderly.numbered feed earlier) deadlines before.now requested
  | @closed feed earlier closed records nextId =>
      obtain rfl := Option.some.inj (closed.symm.trans present)
      cases isOpen
  | @aside happened same records apart nextId =>
      have earlier := same.symm.trans present
      have silent : happened.flatMap (Record.occurrences place number) = [] :=
        List.flatMap_eq_nil_iff.mpr fun record member => (apart record member).occurrences_eq_nil
      rw [orderly.history_eq_append earlier records, silent, List.append_nil, nextId]
      exact hypothesis feed earlier deadlines isOpen number

/-- At any time an open feed with deadlines holds what the histories lead to. -/
theorem follows
    {feed : Feed}
    (moves : List Move)
    (present : (sessionOf moves).broker.feed? place = some feed)
    (deadlines : feed.ackDeadline = some span)
    (isOpen : feed.isClosed = false)
    (number : Nat) :
    feed.Follows (sessionOf moves).broker.nextId number span
      ((sessionOf moves).history place number) := by
  induction moves using List.reverseRecOn generalizing feed number with
  | nil => exact absurd present (by simp [sessionOf, Session.run, feed?])
  | append_singleton moves move hypothesis =>
      rw [sessionOf_append_singleton] at present ⊢
      exact ((change_step _ move).passage place).follows (orderly moves place)
        (fun feed present deadlines isOpen => hypothesis present deadlines isOpen)
        present deadlines isOpen number

end Broker
end PubSub
