import Mathlib.Data.List.Nodup
import PubSub.Proofs.Subscription.Turns

/-!
# Receivers that wait for a background receive

A background receive that comes to a result, whatever it is, stores the result, makes room for
the next background receive, and wakes the receivers that wait for it. `Tracked` follows it
from its start to the end: it is in flight as long as its number is noted in the subscription,
and between storing and waking it is ending.

A background receive whose driver call ends abnormally does none of this. Its number stays
noted forever, so no other background receive is ever started.
-/

namespace PubSub
namespace Subscription

variable {Number : Type}

@[simp] def Activity.waking? : Activity → Option Nat
  | .fetch (.waking number) => some number
  | _ => none

@[simp] def Activity.awaiting? : Activity → Option Nat
  | .receiver _ (.awaiting number) => some number
  | _ => none

@[simp] def Record.fetched? : Record → Option Nat
  | .fetched number _ => some number
  | _ => none

namespace Session

variable (session : Session Number)

/-- The background receives that are about to wake their receivers. -/
@[simp] def waking : List Nat := session.activities.filterMap Activity.waking?

/-- The background receives that receivers wait for. -/
@[simp] def awaiting : List Nat := session.activities.filterMap Activity.awaiting?

/-- The background receives whose result was stored, oldest first. -/
@[simp] def fetched : List Nat := session.records.filterMap Record.fetched?

/-- A background receive has come to a result, and its receivers were or will be woken. -/
def IsEnding (number : Nat) : Prop :=
  number ∈ session.waking ∨ number ∈ session.subscription.woken

end Session

/-- A background receive was started and is not noted any more. -/
structure IsOver (subscription : Subscription Number) (number : Nat) : Prop where
  started : number < subscription.fetches
  cleared : subscription.receiving ≠ some number

/-- The background receives are where the subscription says. -/
structure Tracked (session : Session Number) : Prop where
  receiving :
    (session.inFlight ++ session.crashed).Perm session.subscription.receiving.toList
  started : ∀ number ∈ session.subscription.receiving, number < session.subscription.fetches
  finished : ∀ number, session.IsEnding number → session.subscription.IsOver number
  whole : ∀ number < session.subscription.fetches,
    session.subscription.receiving = some number ∨ session.IsEnding number
  awaiting : ∀ number ∈ session.awaiting, number < session.subscription.fetches
  fetched : ∀ number ∈ session.fetched, session.IsEnding number
  once : session.fetched.Nodup

theorem crashed?_of_isMinor (record : Record) (minor : record.isMinor = true) :
    record.crashed? = none := by
  cases record <;> simp_all

theorem fetched?_of_isMinor (record : Record) (minor : record.isMinor = true) :
    record.fetched? = none := by
  cases record <;> simp_all

theorem inFlight?_of_isAcking (activity : Activity) (acking : activity.IsAcking) :
    activity.inFlight? = none := by
  cases acking <;> rfl

theorem waking?_of_isAcking (activity : Activity) (acking : activity.IsAcking) :
    activity.waking? = none := by
  cases acking <;> rfl

theorem awaiting?_of_isAcking (activity : Activity) (acking : activity.IsAcking) :
    activity.awaiting? = none := by
  cases acking <;> rfl

namespace Tracked

attribute [local simp] List.filterMap_cons

variable {before after : Session Number}

/-- Nothing has happened to a background receive, except that it may have woken its receivers,
and nobody else waits for one. -/
theorem congr
    (tracked : Tracked before)
    (receiving : after.subscription.receiving = before.subscription.receiving)
    (fetches : after.subscription.fetches = before.subscription.fetches)
    (noted : (after.inFlight ++ after.crashed).Perm (before.inFlight ++ before.crashed))
    (ending : ∀ number, after.IsEnding number ↔ before.IsEnding number)
    (awaiting : ∀ number ∈ after.awaiting,
      number ∈ before.awaiting ∨ before.subscription.receiving = some number)
    (fetched : after.fetched = before.fetched) : Tracked after := by
  refine ⟨?receiving, ?started, ?finished, ?whole, ?awaiting, ?fetched, ?once⟩
  case receiving =>
    rw [receiving]
    exact noted.trans tracked.receiving
  case started =>
    rw [receiving, fetches]
    exact tracked.started
  case finished =>
    intro number ended
    obtain ⟨started, cleared⟩ := tracked.finished number ((ending number).mp ended)
    exact ⟨fetches ▸ started, receiving ▸ cleared⟩
  case whole =>
    intro number started
    rw [receiving, ending]
    exact tracked.whole number (fetches ▸ started)
  case awaiting =>
    intro number member
    rw [fetches]
    exact (awaiting number member).elim (tracked.awaiting number) (tracked.started number)
  case fetched =>
    intro number member
    rw [ending]
    exact tracked.fetched number (fetched ▸ member)
  case once => exact fetched ▸ tracked.once

theorem perm
    {activities : List Activity}
    (same : before.activities.Perm activities)
    (tracked : Tracked before) : Tracked { before with activities } :=
  tracked.congr rfl rfl ((same.symm.filterMap _).append_right _)
    (fun _ => or_congr_left (same.symm.filterMap _).mem_iff)
    (fun _ member => .inl ((same.filterMap _).mem_iff.mpr member)) rfl

/-- A background receive in flight is the only one, and it is noted. -/
theorem alone
    (tracked : Tracked before)
    {number : Nat}
    {others : List Nat}
    (inFlight : before.inFlight = number :: others) :
    before.subscription.receiving = some number ∧ others = [] ∧ before.crashed = [] := by
  have noted := tracked.receiving
  rw [inFlight] at noted
  cases receiving : before.subscription.receiving with
  | none =>
      rw [receiving, Option.toList_none, List.perm_nil] at noted
      contradiction
  | some other =>
      rw [receiving, Option.toList_some, List.cons_append, List.perm_singleton,
        List.cons.injEq, List.append_eq_nil_iff] at noted
      exact ⟨congrArg some noted.1.symm, noted.2⟩

/-- A background receive was started, because none was noted. -/
theorem begun
    (tracked : Tracked before)
    (idle : before.subscription.receiving = none)
    (receiving : after.subscription.receiving = some before.subscription.fetches)
    (fetches : after.subscription.fetches = before.subscription.fetches + 1)
    (woken : after.subscription.woken = before.subscription.woken)
    (inFlight : after.inFlight = before.subscription.fetches :: before.inFlight)
    (waking : after.waking = before.waking)
    (awaiting : after.awaiting = before.awaiting)
    (crashed : after.crashed = before.crashed)
    (fetched : after.fetched = before.fetched) : Tracked after := by
  have nobody := tracked.receiving
  rw [idle, Option.toList_none, List.perm_nil] at nobody
  have ending : ∀ number, after.IsEnding number ↔ before.IsEnding number := fun number => by
    rw [Session.IsEnding, Session.IsEnding, waking, woken]
  refine ⟨?receiving, ?started, ?finished, ?whole, ?awaiting, ?fetched, ?once⟩
  case receiving =>
    rw [inFlight, crashed, receiving, List.cons_append, nobody, Option.toList_some]
  case started =>
    intro number noted
    rw [receiving, Option.mem_some_iff] at noted
    omega
  case finished =>
    intro number ended
    have started := (tracked.finished number ((ending number).mp ended)).started
    refine ⟨by omega, ?_⟩
    rw [receiving, Ne, Option.some.injEq]
    omega
  case whole =>
    intro number started
    rw [receiving, ending]
    by_cases new : number = before.subscription.fetches
    · exact .inl (congrArg some new.symm)
    · rcases tracked.whole number (by omega) with noted | ended
      · rw [idle] at noted
        contradiction
      · exact .inr ended
  case awaiting =>
    intro number member
    have started := tracked.awaiting number (awaiting ▸ member)
    omega
  case fetched =>
    intro number member
    exact (ending number).mpr (tracked.fetched number (fetched ▸ member))
  case once => exact fetched ▸ tracked.once

/-- The result of a background receive was stored. -/
theorem stored
    (tracked : Tracked before)
    {number : Nat}
    (receiving : after.subscription.receiving = none)
    (fetches : after.subscription.fetches = before.subscription.fetches)
    (woken : after.subscription.woken = before.subscription.woken)
    (inFlight : before.inFlight = number :: after.inFlight)
    (waking : after.waking = number :: before.waking)
    (awaiting : after.awaiting = before.awaiting)
    (crashed : after.crashed = before.crashed)
    (fetched : after.fetched = before.fetched ++ [number]) : Tracked after := by
  obtain ⟨noted, nobody, none_crashed⟩ := tracked.alone inFlight
  have ending : ∀ other, after.IsEnding other ↔ other = number ∨ before.IsEnding other :=
    fun other => by
      rw [Session.IsEnding, Session.IsEnding, waking, woken, List.mem_cons, or_assoc]
  refine ⟨?receiving, ?started, ?finished, ?whole, ?awaiting, ?fetched, ?once⟩
  case receiving =>
    rw [nobody, crashed, none_crashed, receiving]
    exact .refl _
  case started =>
    rw [receiving]
    exact nofun
  case finished =>
    intro other ended
    refine ⟨?_, by rw [receiving]; exact nofun⟩
    rw [fetches]
    rcases (ending other).mp ended with rfl | ended
    · exact tracked.started other noted
    · exact (tracked.finished other ended).started
  case whole =>
    intro other started
    rw [ending]
    rcases tracked.whole other (fetches ▸ started) with same | ended
    · rw [noted] at same
      exact .inr (.inl (Option.some.inj same).symm)
    · exact .inr (.inr ended)
  case awaiting =>
    intro other member
    rw [fetches]
    exact tracked.awaiting other (awaiting ▸ member)
  case fetched =>
    intro other member
    rw [ending]
    rw [fetched, List.mem_append, List.mem_singleton] at member
    rcases member with earlier | rfl
    · exact .inr (tracked.fetched other earlier)
    · exact .inl rfl
  case once =>
    have new : number ∉ before.fetched := fun earlier =>
      (tracked.finished number (tracked.fetched number earlier)).cleared noted
    rw [fetched, ← List.concat_eq_append]
    exact tracked.once.concat new

/-- A background receive that ended abnormally is noted, and its receivers are not woken. -/
theorem of_mem_crashed
    (tracked : Tracked before)
    {number : Nat}
    (crashed : number ∈ before.crashed) :
    before.subscription.receiving = some number ∧ ¬before.IsEnding number := by
  have noted : number ∈ before.subscription.receiving.toList :=
    tracked.receiving.mem_iff.mp (List.mem_append_right _ crashed)
  have receiving : before.subscription.receiving = some number := Option.mem_toList.mp noted
  exact ⟨receiving, fun ended => (tracked.finished number ended).cleared receiving⟩

variable [Scalar Number]

theorem create (setup : Setup Number) : Tracked setup.session where
  receiving := .refl _
  started := by simp [Setup.session, Setup.subscription, Subscription.create]
  finished := by simp [Setup.session, Setup.subscription, Subscription.create, Session.IsEnding]
  whole := by simp [Setup.session, Setup.subscription, Subscription.create]
  awaiting := by simp [Setup.session]
  fetched := by simp [Setup.session]
  once := by simp [Setup.session]

theorem change (change : Change before after) (tracked : Tracked before) : Tracked after := by
  cases change with
  | prefetched idle sized =>
      exact tracked.begun idle rfl rfl rfl rfl rfl rfl (by simp) (by simp)
  | delivered split | told split | flushed split | ended split | refused split | began split
  | gathered split | returned split | lost split | recorded split | ignored split | closed split =>
      exact (tracked.perm split).congr rfl rfl (by simp) (fun _ => .rfl) (fun _ => .inl) (by simp)
  | @gaveUp context receiver others split cancelled =>
      refine (tracked.perm split).congr rfl rfl (by simp) (fun _ => .rfl)
        (fun _ member => .inl ?_) (by simp)
      cases receiver with
      | asking => exact member
      | awaiting => exact List.mem_cons_of_mem _ member
  | waited split inFlight empty =>
      refine (tracked.perm split).congr rfl rfl (.refl _) (fun _ => .rfl) ?_ rfl
      intro number member
      rcases List.mem_cons.mp member with rfl | earlier
      · exact .inr inFlight
      · exact .inl earlier
  | resumed split ended =>
      exact (tracked.perm split).congr rfl rfl (.refl _) (fun _ => .rfl)
        (fun _ member => .inl (List.mem_cons_of_mem _ member)) rfl
  | looked split same minor =>
      have crashed := filterMap_append_of_isMinor crashed?_of_isMinor before.records minor
      have fetched := filterMap_append_of_isMinor fetched?_of_isMinor before.records minor
      exact (tracked.perm split).congr rfl rfl (.of_eq (congrArg (_ ++ ·) crashed))
        (fun _ => .rfl) (fun _ => .inl) fetched
  | @crashed number calls others split =>
      refine (tracked.perm split).congr rfl rfl ?_ (fun _ => .rfl) (fun _ => .inl) (by simp)
      -- As far as the subscription can tell it is still there.
      rw [Session.crashed, List.filterMap_append, ← List.append_assoc]
      exact List.perm_append_singleton ..
  | stored split =>
      exact (tracked.perm split).stored rfl rfl rfl rfl rfl rfl (by simp) (by simp)
  | woke split =>
      refine (tracked.perm split).congr rfl rfl (.refl _) (fun number => ?_) (fun _ => .inl) rfl
      show number ∈ List.filterMap _ _ ∨ number ∈ _ :: before.subscription.woken ↔
        number ∈ _ :: List.filterMap _ _ ∨ number ∈ before.subscription.woken
      rw [List.mem_cons, List.mem_cons]
      tauto
  | @acked acks messages gone new others happened split gone_acking new_acking present minor =>
      have inFlight :=
        filterMap_append_of_isAcking inFlight?_of_isAcking gone_acking new_acking others
      have waking :=
        filterMap_append_of_isAcking waking?_of_isAcking gone_acking new_acking others
      have awaiting :=
        filterMap_append_of_isAcking awaiting?_of_isAcking gone_acking new_acking others
      have crashed := filterMap_append_of_isMinor crashed?_of_isMinor before.records minor
      have fetched := filterMap_append_of_isMinor fetched?_of_isMinor before.records minor
      refine (tracked.perm split).congr rfl rfl (.of_eq (congrArg₂ (· ++ ·) inFlight crashed))
        (fun number => ?_) (fun number member => .inl ?_) fetched
      · rw [Session.IsEnding, Session.waking, waking]
        rfl
      · rw [Session.awaiting, awaiting] at member
        exact member
  | foundEmpty | cancelled | elapsed | dropped =>
      exact tracked.congr rfl rfl (.refl _) (fun _ => .rfl) (fun _ => .inl) rfl
  | arrived fresh held =>
      cases fresh <;> exact tracked.congr rfl rfl (.refl _) (fun _ => .rfl) (fun _ => .inl) rfl
  | @left caller others split leaves =>
      cases caller with
      | receiver context receiver =>
          refine (tracked.perm split).congr rfl rfl (.refl _) (fun _ => .rfl)
            (fun _ member => .inl ?_) rfl
          cases receiver with
          | asking => exact member
          | awaiting => exact List.mem_cons_of_mem _ member
      | shutdown context closing =>
          exact (tracked.perm split).congr rfl rfl (.refl _) (fun _ => .rfl) (fun _ => .inl) rfl
      | _ => contradiction
  | reordered same => exact tracked.perm same

end Tracked

variable [Scalar Number]

theorem tracked_of_reached {setup : Setup Number} {session : Session Number}
    (reached : Reached setup session) : Tracked session :=
  reached.preserve .change (.create setup)

/-- The number that is noted is that of the one background receive that is in flight, or ended
abnormally. Whoever waits for a background receive that comes to a result, whatever it is, was or
will be woken; one that ended abnormally stays noted and wakes nobody, whatever is done next. -/
theorem receiving_eq_some_iff_running (setup : Setup Number) (moves : List Move) :
    let session := sessionOf setup moves
    (∀ number, session.subscription.receiving = some number ↔
      number ∈ session.inFlight ∨ number ∈ session.crashed) ∧
    session.inFlight.length + session.crashed.length ≤ 1 ∧
    (∀ number ∈ session.awaiting,
      session.subscription.receiving = some number ∨
        number ∈ session.waking ∨ session.subscription.hasEnded number = true) ∧
    (∀ number ∈ session.fetched,
      session.subscription.receiving ≠ some number ∧
        (number ∈ session.waking ∨ session.subscription.hasEnded number = true)) ∧
    ∀ number ∈ session.crashed, ∀ later : List Move,
      (session.run later).subscription.receiving = some number ∧
        (session.run later).subscription.hasEnded number = false := by
  intro session
  have tracked : Tracked session := tracked_of_reached (reached_sessionOf setup moves)
  refine ⟨fun number => ?_, ?_, fun number waits => ?_, fun number stored => ?_,
    fun number crashed later => ?_⟩
  · rw [← List.mem_append, tracked.receiving.mem_iff, Option.mem_toList]
  · rw [← List.length_append, tracked.receiving.length_eq]
    exact Option.length_toList_le
  · simpa [hasEnded, Session.IsEnding] using tracked.whole number (tracked.awaiting number waits)
  · have ended := tracked.fetched number stored
    exact ⟨(tracked.finished number ended).cleared, by simpa [hasEnded, Session.IsEnding] using ended⟩
  · have reached : Reached setup (session.run later) :=
      (reached_sessionOf setup moves).trans (changes_run session later)
    have remembered : number ∈ (session.run later).crashed :=
      ((changes_run session later).prefix_records.filterMap _).subset crashed
    obtain ⟨noted, never⟩ := (tracked_of_reached reached).of_mem_crashed remembered
    refine ⟨noted, ?_⟩
    rw [hasEnded, List.contains_eq_mem, decide_eq_false_iff_not]
    exact fun woken => never (.inr woken)

/-- A driver call that ends abnormally leaves a receiver waiting for a background receive that
is over and will not wake it. -/
theorem stranded_of_panic :
    let session := sessionOf .exact
      [.receive 0, .turn 0 {}, .turn 0 {}, .turn 0 { fetched := .panicked "boom" }]
    session.subscription.receiving = some 0 ∧ session.inFlight = [] ∧ session.awaiting = [0] ∧
      session.subscription.hasEnded 0 = false := by
  decide +kernel

end Subscription
end PubSub
