import PubSub.Proofs.Subscription.Withholding

/-!
# What a background receive holds

The messages that driver calls return are with the background receive that made the calls until
its result is stored. They are lost if another of its calls fails, or if one ends abnormally. As
long as no background receive has failed, whatever was returned is stored or held.
-/

namespace PubSub
namespace Subscription

attribute [local simp] List.filterMap_cons

variable {Number : Type}

/-! ## What is held -/

/-- The messages that a background receive holds: they were returned to it, and are not stored. -/
def Fetch.held : Fetch → List Envelope
  | .calling _ calls => (calls.values.filterMap id).flatten
  | .storing _ result => broughtBy result
  | .waking _ => []

namespace Session

variable (session : Session Number)

/-- The messages that background receives hold. -/
def held : List Envelope := session.fetches.flatMap Fetch.held

/-- The messages that driver calls have returned, oldest call first. -/
def brought : List Envelope := session.answers.flatMap fun answer => answer.2.2

end Session

/-- No background receive has failed. -/
structure Flawless (session : Session Number) : Prop where
  uncrashed : session.crashed = []
  unlost : session.lost = []
  sound : ∀ number error, .fetch (.storing number (.error error)) ∉ session.activities

/-- A value in an empty place is a value more. -/
theorem perm_flatten_set
    {values : List (Option (List Envelope))}
    {place : Nat}
    {value : List Envelope}
    (unknown : values[place]? = some none) :
    ((values.set place (some value)).filterMap id).flatten.Perm
      ((values.filterMap id).flatten ++ value) := by
  obtain ⟨inside, here⟩ := List.getElem?_eq_some_iff.mp unknown
  have split : values = values.take place ++ none :: values.drop (place + 1) := by
    rw [← here, ← List.drop_eq_getElem_cons inside, List.take_append_drop]
  rw [List.set_eq_take_append_cons_drop, if_pos inside]
  conv => rhs; rw [split]
  simp only [List.filterMap_append, List.filterMap_cons, id_eq, List.flatten_append,
    List.flatten_cons, List.append_assoc]
  exact (List.perm_append_comm).append_left _

theorem held_ofRequests (number : Nat) (sizes : List Nat) :
    (Fetch.ofSizes number sizes).held = [] := by
  simp [Fetch.ofSizes, Fetch.held, List.filterMap_replicate_of_none]

open scoped List

variable [Scalar Number] {before after : Session Number}

namespace Flawless

/-- A failure is never forgotten. -/
theorem of_change (flawless : Flawless after) (change : Change before after) : Flawless before := by
  have shown {View : Type} (view : Record → Option View)
      (nothing : after.records.filterMap view = []) : before.records.filterMap view = [] :=
    List.prefix_nil.mp (nothing ▸ change.prefix_records.filterMap view)
  refine ⟨shown _ flawless.uncrashed, shown _ flawless.unlost, fun number error member => ?_⟩
  have later := flawless.sound number error
  cases change with
  | stored split estimator =>
      rcases List.mem_cons.mp (split.mem_iff.mp member) with same | other
      · cases same
        have unlost := flawless.unlost
        simp at unlost
      · exact later (.tail _ other)
  | acked split gone_acking =>
      rcases List.mem_append.mp (split.mem_iff.mp member) with gone | other
      · cases gone_acking _ gone
      · exact later (List.mem_append_right _ other)
  | prefetched | arrived => exact later (.tail _ member)
  | foundEmpty | cancelled | elapsed | dropped => exact later member
  | reordered same => exact later (same.mem_iff.mp member)
  | left split leaves =>
      rcases List.mem_cons.mp (split.mem_iff.mp member) with same | other
      · cases same
        contradiction
      · exact later other
  | delivered split | told split | gaveUp split | crashed split | woke split | refused split
  | closed split =>
      exact later (by simpa using split.mem_iff.mp member)
  | waited split | resumed split | looked split | returned split | gathered split | lost split
  | recorded split | ignored split | began split | flushed split | ended split =>
      exact later (List.mem_cons_of_mem _ (by simpa using split.mem_iff.mp member))

end Flawless

/-- What was returned is stored or held. -/
def Session.IsKept (session : Session Number) : Prop :=
  session.brought.Perm (session.stored.flatMap Prod.snd ++ session.held)

namespace Session.IsKept

omit [Scalar Number] in
/-- Nothing was returned or stored. -/
theorem congr
    (kept : before.IsKept)
    (answers : after.answers = before.answers)
    (stored : after.stored = before.stored)
    (held : before.held.Perm after.held) : after.IsKept := by
  rw [IsKept, brought, answers, stored]
  exact kept.trans (held.append_left _)

omit [Scalar Number] in
theorem held_perm
    {activities : List Activity}
    (split : before.activities.Perm activities) :
    before.held.Perm ((activities.filterMap Activity.fetch?).flatMap Fetch.held) :=
  (split.filterMap _).flatMap_right _

omit [Scalar Number] in
/-- A driver call has returned messages, which its background receive holds now. -/
theorem returned
    {fetch later : Fetch}
    {value rest : List Envelope}
    (kept : before.IsKept)
    (split : before.held.Perm (fetch.held ++ rest))
    (filled : later.held.Perm (fetch.held ++ value))
    (brought : after.brought = before.brought ++ value)
    (stored : after.stored = before.stored)
    (held : after.held = later.held ++ rest) : after.IsKept := by
  rw [IsKept, brought, stored, held]
  calc before.brought ++ value
    _ ~ before.stored.flatMap Prod.snd ++ before.held ++ value := kept.append_right value
    _ ~ before.stored.flatMap Prod.snd ++ (fetch.held ++ rest ++ value) := by
        rw [List.append_assoc]
        exact (split.append_right value).append_left _
    _ ~ before.stored.flatMap Prod.snd ++ (fetch.held ++ value ++ rest) := by
        rw [List.append_assoc fetch.held, List.append_assoc fetch.held]
        exact (List.perm_append_comm.append_left _).append_left _
    _ ~ before.stored.flatMap Prod.snd ++ (later.held ++ rest) :=
        (filled.symm.append_right rest).append_left _

omit [Scalar Number] in
/-- A background receive has stored what it held. -/
theorem stored
    {envelopes rest : List Envelope}
    (kept : before.IsKept)
    (number : Nat)
    (split : before.held.Perm (envelopes ++ rest))
    (brought : after.brought = before.brought)
    (stored : after.stored = before.stored ++ [(number, envelopes)])
    (held : after.held = rest) : after.IsKept := by
  rw [IsKept, brought, stored, held, List.flatMap_append, List.flatMap_singleton,
    List.append_assoc]
  exact kept.trans (split.append_left _)

/-- As long as nothing fails, nothing is lost. -/
theorem change
    (change : Change before after)
    (flawless : Flawless after)
    (kept : before.IsKept) : after.IsKept := by
  cases change with
  | prefetched =>
      refine kept.congr (by simp) (by simp) ?_
      simp [Session.held, held_ofRequests]
  | delivered split | told split | gaveUp split | refused split | closed split | waited split
  | resumed split | recorded split | ignored split | began split | flushed split | ended split
  | woke split =>
      refine kept.congr (by simp) (by simp) ((held_perm split).trans (.of_eq ?_))
      simp [Session.held, Fetch.held]
  | foundEmpty | cancelled | elapsed | dropped => exact kept.congr rfl rfl (.refl _)
  | reordered same => exact kept.congr rfl rfl (held_perm same)
  | arrived fresh =>
      refine kept.congr rfl rfl (.of_eq ?_)
      cases fresh <;> rfl
  | left split leaves =>
      refine kept.congr rfl rfl ((held_perm split).trans (.of_eq ?_))
      cases ‹Activity› <;> first | rfl | contradiction
  | @looked number calls later others happened split same minor =>
      refine kept.congr
        (filterMap_append_of_isMinor answer?_of_isMinor _ minor)
        (filterMap_append_of_isMinor stored?_of_isMinor _ minor)
        ((held_perm split).trans (.of_eq ?_))
      simp [Session.held, Fetch.held, same]
  | @acked acks messages gone new others happened split gone_acking new_acking present minor =>
      refine kept.congr
        (filterMap_append_of_isMinor answer?_of_isMinor _ minor)
        (filterMap_append_of_isMinor stored?_of_isMinor _ minor)
        ((held_perm split).trans (.of_eq ?_))
      rw [Session.held, Session.fetches,
        filterMap_append_of_isAcking fetch?_of_isAcking gone_acking new_acking]
  | @returned number place calls later value others split unknown values =>
      have filled : (Fetch.calling number later).held.Perm
          ((Fetch.calling number calls).held ++ value) := by
        rw [Fetch.held, values]
        exact perm_flatten_set unknown
      exact kept.returned (held_perm split) filled (by simp [Session.brought]) (by simp) rfl
  | @gathered number calls values others split all =>
      have checked : before.subscription.checkFetched values.flatten = .ok values.flatten := by
        cases checked : before.subscription.checkFetched values.flatten with
        | ok envelopes => rw [eq_of_checkFetched_eq_ok checked]
        | error error =>
            rw [checked] at flawless
            exact absurd List.mem_cons_self (flawless.sound number error)
      refine kept.congr rfl rfl ((held_perm split).trans (.of_eq ?_))
      simp [Session.held, Fetch.held, all, checked]
  | lost split =>
      exact absurd List.mem_cons_self (flawless.sound _ _)
  | crashed split =>
      have uncrashed := flawless.uncrashed
      simp at uncrashed
  | @stored number result others split estimator =>
      cases result with
      | ok envelopes =>
          exact kept.stored number (held_perm split) (by simp [Session.brought])
            (by simp [Fetch.held]) rfl
      | error error =>
          have unlost := flawless.unlost
          simp at unlost

end Session.IsKept

/-- Whatever driver calls have returned is stored or held, if no background receive has failed. -/
theorem isKept_of_reached
    {setup : Setup Number}
    {session : Session Number}
    (reached : Reached setup session)
    (flawless : Flawless session) : session.IsKept := by
  induction reached with
  | refl => exact .refl _
  | tail earlier last hypothesis =>
      exact .change last flawless (hypothesis (flawless.of_change last))

end Subscription
end PubSub
