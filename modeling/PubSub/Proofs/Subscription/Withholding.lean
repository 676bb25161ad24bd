import PubSub.Proofs.Batch.Splitting
import PubSub.Proofs.Subscription.Delivery
import PubSub.Proofs.Subscription.Resting

/-!
# What a waiting receiver may be kept from

What the driver calls of a background receive return is stored together, once all of them have
returned. So as long as one of the calls runs, the messages of the others are in nobody's reach,
and a receiver that waits for this background receive is kept from them. It is kept from nothing
else: background receives come one after the other, each of them ended before the next one was
started, and whatever they stored has been delivered before a receiver waits.

With options that do not split a request there is one call, and nothing is withheld.
-/

namespace PubSub

namespace BatchOptions

/-- Whether a request is made by a single call, whatever its size. -/
def IsWhole (options : BatchOptions) : Prop := options.maxSize = 0 ∨ options.handlerLimit = 1

instance (options : BatchOptions) : Decidable options.IsWhole :=
  inferInstanceAs (Decidable (options.maxSize = 0 ∨ options.handlerLimit = 1))

theorem length_split_le_one
    {options : BatchOptions}
    (whole : options.IsWhole)
    (count : Nat) : (options.split count).length ≤ 1 := by
  rcases whole with unlimited | alone
  · exact length_split_le_one_of_unlimited unlimited count
  · rw [← alone]
    exact options.length_split_le count

end BatchOptions

namespace Subscription

variable {Number : Type}

/-! ## One after the other -/

/-- A background receive whose result was an error. -/
@[simp] def Record.lost? : Record → Option Nat
  | .fetched number (.error _) => some number
  | _ => none

/-- The background receives whose result was an error, oldest first. -/
@[simp] def Session.lost (session : Session Number) : List Nat :=
  session.records.filterMap Record.lost?

/-- Background receives come one after the other. An error ends them all, and nothing is queued
while a receiver waits for the one that is noted. -/
structure Sequential (session : Session Number) : Prop where
  latest : ∀ number, session.subscription.receiving = some number →
    number + 1 = session.subscription.fetches
  lost : ∀ number ∈ session.lost,
    number + 1 = session.subscription.fetches ∧ session.subscription.sticky ≠ none
  empty : ∀ number ∈ session.awaiting,
    session.subscription.receiving = some number → session.subscription.queue = []
  ended : ∀ number, session.IsEnding number → number ∈ session.fetched

theorem lost?_of_isMinor (record : Record) (minor : record.isMinor = true) :
    record.lost? = none := by
  cases record <;> simp_all

namespace Sequential

attribute [local simp] List.filterMap_cons

variable {before after : Session Number}

/-- No background receive was started or has come to a result. -/
theorem congr
    (sequential : Sequential before)
    (receiving : after.subscription.receiving = before.subscription.receiving)
    (fetches : after.subscription.fetches = before.subscription.fetches)
    (sticky : before.subscription.sticky ≠ none → after.subscription.sticky ≠ none)
    (queue : before.subscription.queue = [] → after.subscription.queue = [])
    (lost : after.lost = before.lost)
    (awaiting : ∀ number ∈ after.awaiting,
      number ∈ before.awaiting ∨ after.subscription.queue = [])
    (ending : ∀ number, after.IsEnding number → before.IsEnding number)
    (fetched : after.fetched = before.fetched) : Sequential after where
  latest number noted := by
    rw [fetches]
    exact sequential.latest number (receiving ▸ noted)
  lost number member := by
    obtain ⟨latest, troubled⟩ := sequential.lost number (lost ▸ member)
    exact ⟨fetches ▸ latest, sticky troubled⟩
  empty number member noted := by
    rcases awaiting number member with earlier | empty
    · exact queue (sequential.empty number earlier (receiving ▸ noted))
    · exact empty
  ended number ended := by
    rw [fetched]
    exact sequential.ended number (ending number ended)

theorem perm
    {activities : List Activity}
    (same : before.activities.Perm activities)
    (sequential : Sequential before) : Sequential { before with activities } :=
  sequential.congr rfl rfl id id rfl
    (fun _ member => .inl ((same.filterMap _).mem_iff.mpr member))
    (fun _ => Or.imp_left (same.filterMap _).mem_iff.mpr) rfl

/-- A background receive was started, because no error came before. -/
theorem prefetched
    (sequential : Sequential before)
    (tracked : Tracked before)
    (untroubled : before.subscription.sticky = none)
    (receiving : after.subscription.receiving = some before.subscription.fetches)
    (fetches : after.subscription.fetches = before.subscription.fetches + 1)
    (lost : after.lost = before.lost)
    (awaiting : after.awaiting = before.awaiting)
    (ending : ∀ number, after.IsEnding number → before.IsEnding number)
    (fetched : after.fetched = before.fetched) : Sequential after where
  latest number noted := by
    rw [receiving, Option.some.injEq] at noted
    omega
  lost number member :=
    absurd untroubled (sequential.lost number (lost ▸ member)).2
  empty number member noted := by
    rw [receiving, Option.some.injEq] at noted
    have started := tracked.awaiting number (awaiting ▸ member)
    omega
  ended number ended := by
    rw [fetched]
    exact sequential.ended number (ending number ended)

/-- A background receive has come to a result. -/
theorem stored
    (sequential : Sequential before)
    {number : Nat}
    {result : Outcome (List Envelope)}
    (noted : before.subscription.receiving = some number)
    (receiving : after.subscription.receiving = none)
    (fetches : after.subscription.fetches = before.subscription.fetches)
    (sticky : after.subscription.sticky = before.subscription.sticky.or (errorOf? result))
    (lost : after.lost = before.lost ++ [Record.fetched number result].filterMap Record.lost?)
    (ending : ∀ other, after.IsEnding other → other = number ∨ before.IsEnding other)
    (fetched : after.fetched = before.fetched ++ [number]) : Sequential after where
  latest other same := by
    rw [receiving] at same
    contradiction
  lost other member := by
    rw [fetches, sticky]
    rw [lost, List.mem_append] at member
    rcases member with earlier | new
    · obtain ⟨latest, troubled⟩ := sequential.lost other earlier
      exact ⟨latest, fun quiet => troubled (Option.or_eq_none_iff.mp quiet).1⟩
    · cases result with
      | ok envelopes => simp at new
      | error error =>
          obtain rfl : other = number := by simpa using new
          exact ⟨sequential.latest other noted, by simp⟩
  empty other _ same := by
    rw [receiving] at same
    contradiction
  ended other ended := by
    rw [fetched, List.mem_append, List.mem_singleton]
    rcases ending other ended with rfl | earlier
    · exact .inr rfl
    · exact .inl (sequential.ended other earlier)

variable [Scalar Number]

theorem create (setup : Setup Number) : Sequential setup.session where
  latest := by simp [Setup.session, Setup.subscription, Subscription.create]
  lost := by simp [Setup.session]
  empty := by simp [Setup.session]
  ended := by simp [Setup.session, Setup.subscription, Subscription.create, Session.IsEnding]

theorem change
    (change : Change before after)
    (tracked : Tracked before)
    (sequential : Sequential before) : Sequential after := by
  cases change with
  | prefetched idle sized untroubled =>
      exact sequential.prefetched tracked untroubled rfl rfl (by simp) rfl (fun _ => id) (by simp)
  | delivered split untroubled queued =>
      refine (sequential.perm split).congr rfl rfl id (fun empty => ?_) (by simp)
        (fun _ => .inl) (fun _ => id) (by simp)
      exact absurd (queued.symm.trans empty) (List.cons_ne_nil _ _)
  | told split | crashed split | gathered split | returned split | lost split | flushed split
  | ended split | refused split | ignored split | closed split =>
      exact (sequential.perm split).congr rfl rfl id id (by simp) (fun _ => .inl) (fun _ => id)
        (by simp)
  | recorded split =>
      refine (sequential.perm split).congr rfl rfl (fun troubled quiet => ?_) id (by simp)
        (fun _ => .inl) (fun _ => id) (by simp)
      exact troubled (Option.or_eq_none_iff.mp quiet).1
  | began split =>
      exact (sequential.perm split).congr rfl rfl (fun _ => Option.some_ne_none _) id rfl
        (fun _ => .inl) (fun _ => id) rfl
  | @gaveUp context receiver others split cancelled =>
      refine (sequential.perm split).congr rfl rfl id id (by simp) (fun _ member => .inl ?_)
        (fun _ => id) (by simp)
      cases receiver with
      | asking => exact member
      | awaiting => exact List.mem_cons_of_mem _ member
  | waited split inFlight empty =>
      exact (sequential.perm split).congr rfl rfl id id rfl (fun _ _ => .inr empty) (fun _ => id)
        rfl
  | resumed split ended =>
      exact (sequential.perm split).congr rfl rfl id id rfl
        (fun _ member => .inl (List.mem_cons_of_mem _ member)) (fun _ => id) rfl
  | looked split same minor =>
      have lost := filterMap_append_of_isMinor lost?_of_isMinor before.records minor
      have fetched := filterMap_append_of_isMinor fetched?_of_isMinor before.records minor
      exact (sequential.perm split).congr rfl rfl id id lost (fun _ => .inl) (fun _ => id) fetched
  | @stored number result others split estimator =>
      obtain ⟨noted, -, -⟩ := (tracked.perm split).alone rfl
      refine (sequential.perm split).stored noted rfl rfl rfl (by simp) (fun other => ?_)
        (by simp)
      show other ∈ number :: List.filterMap _ _ ∨ _ → _ ∨ other ∈ List.filterMap _ _ ∨ _
      rw [List.mem_cons]
      tauto
  | woke split =>
      refine (sequential.perm split).congr rfl rfl id id rfl (fun _ => .inl) (fun number => ?_) rfl
      show number ∈ List.filterMap _ _ ∨ number ∈ _ :: before.subscription.woken →
        number ∈ _ :: List.filterMap _ _ ∨ number ∈ before.subscription.woken
      rw [List.mem_cons, List.mem_cons]
      tauto
  | @acked acks messages gone new others happened split gone_acking new_acking present minor =>
      have waking :=
        filterMap_append_of_isAcking waking?_of_isAcking gone_acking new_acking others
      have awaiting :=
        filterMap_append_of_isAcking awaiting?_of_isAcking gone_acking new_acking others
      have lost := filterMap_append_of_isMinor lost?_of_isMinor before.records minor
      have fetched := filterMap_append_of_isMinor fetched?_of_isMinor before.records minor
      refine (sequential.perm split).congr rfl rfl id id lost (fun number member => .inl ?_)
        (fun number ending => ?_) fetched
      · rwa [Session.awaiting, awaiting] at member
      · rwa [Session.IsEnding, Session.waking, waking] at ending
  | foundEmpty | cancelled | elapsed | dropped =>
      exact sequential.congr rfl rfl id id rfl (fun _ => .inl) (fun _ => id) rfl
  | arrived fresh =>
      cases fresh <;>
        exact sequential.congr rfl rfl id id rfl (fun _ => .inl) (fun _ => id) rfl
  | @left caller others split leaves =>
      cases caller with
      | receiver context receiver =>
          refine (sequential.perm split).congr rfl rfl id id rfl (fun _ member => .inl ?_)
            (fun _ => id) rfl
          cases receiver with
          | asking => exact member
          | awaiting => exact List.mem_cons_of_mem _ member
      | shutdown context closing =>
          exact (sequential.perm split).congr rfl rfl id id rfl (fun _ => .inl) (fun _ => id) rfl
      | _ => contradiction
  | reordered same => exact sequential.perm same

end Sequential

/-! ## Calls that have not returned -/

/-- A driver call of a background receive has not returned messages. -/
def IsOpen (session : Session Number) (number : Nat) : Prop :=
  ∃ values, Answered session number values ∧ none ∈ values

/-- A background receive that ended abnormally leaves a call behind that has not returned. -/
def Unfinished (session : Session Number) : Prop :=
  ∀ number ∈ session.crashed, IsOpen session number

namespace Unfinished

attribute [local simp] List.filterMap_cons

variable {before after : Session Number}

/-- No driver call has returned messages. -/
theorem mono
    (unfinished : Unfinished before)
    (started : before.started ⊆ after.started)
    (answers : after.answers = before.answers)
    (crashed : ∀ number ∈ after.crashed, number ∈ before.crashed ∨ IsOpen before number) :
    Unfinished after := by
  intro number member
  obtain ⟨values, answered, unknown⟩ : IsOpen before number :=
    (crashed number member).elim (unfinished number) id
  exact ⟨values, answered.mono started fun _ _ => by rw [answers], unknown⟩

/-- No background receive has ended abnormally either. -/
theorem congr
    (unfinished : Unfinished before)
    (started : before.started ⊆ after.started)
    (answers : after.answers = before.answers)
    (crashed : after.crashed = before.crashed) : Unfinished after :=
  unfinished.mono started answers fun _ member => .inl (crashed ▸ member)

/-- Only minor things have happened. -/
theorem minor
    (unfinished : Unfinished before)
    {happened : List Record}
    (records : after.records = before.records ++ happened)
    (minor : ∀ record ∈ happened, record.isMinor = true) : Unfinished after := by
  have started := filterMap_append_of_isMinor started?_of_isMinor before.records minor
  have answers := filterMap_append_of_isMinor answer?_of_isMinor before.records minor
  have crashed := filterMap_append_of_isMinor crashed?_of_isMinor before.records minor
  rw [← records] at started answers crashed
  refine unfinished.congr (fun entry member => ?_) answers crashed
  rwa [Session.started, started]

variable [Scalar Number]

theorem create (setup : Setup Number) : Unfinished setup.session := by
  simp [Unfinished, Setup.session]

theorem change
    (change : Change before after)
    (tracked : Tracked before)
    (gathering : Gathering before)
    (unfinished : Unfinished before) : Unfinished after := by
  cases change with
  | @returned number place calls later value others split unknown values =>
      -- Of a background receive in flight and one that ended abnormally there is only one.
      have nobody : before.crashed = [] := ((tracked.perm split).alone rfl).2.2
      intro other member
      have earlier : other ∈ before.crashed := by simpa using member
      rw [nobody] at earlier
      contradiction
  | @crashed number calls others split unknown =>
      have answered : Answered _ number calls.values :=
        (gathering.perm split).fits (.calling number calls) (.head _)
      refine unfinished.mono (by simp) (by simp) fun other member => ?_
      have either : other ∈ before.crashed ∨ other = number := by
        rw [Session.crashed, List.filterMap_append, List.mem_append] at member
        simpa using member
      rcases either with earlier | rfl
      · exact .inl earlier
      · exact .inr ⟨calls.values, answered.mono (List.Subset.refl _) fun _ _ => .rfl, unknown⟩
  | looked split same minor => exact unfinished.minor rfl minor
  | acked split gone_acking new_acking present minor => exact unfinished.minor rfl minor
  | prefetched | delivered | told | gaveUp | stored | recorded | ignored | closed | refused
  | ended =>
      exact unfinished.congr (by simp) (by simp) (by simp)
  | waited | foundEmpty | resumed | gathered | lost | woke | began | flushed | arrived | left
  | reordered | cancelled | elapsed | dropped =>
      exact unfinished.congr (List.Subset.refl _) rfl rfl

end Unfinished

/-! ## How background receives are started -/

section Starting

attribute [local simp] List.filterMap_cons

variable {before after : Session Number} [Scalar Number]

/-- The limits of background receives stay as they are. -/
theorem Change.receiveOptions (change : Change before after) :
    after.subscription.receiveOptions = before.subscription.receiveOptions := by
  cases change <;> rfl

/-- No background receive is started, or the next one is, with its size announced before. -/
theorem Change.started_cases (change : Change before after) :
    after.started = before.started ∨
      ∃ size, after.records = before.records ++
        [.asked (.publish (sizeEvent size)),
          .asked (.startFetch before.subscription.fetches
            (before.subscription.requestSizes size))] := by
  cases change with
  | @prefetched size => exact .inr ⟨size, rfl⟩
  | looked split same minor =>
      exact .inl (filterMap_append_of_isMinor started?_of_isMinor _ minor)
  | acked split gone_acking new_acking present minor =>
      exact .inl (filterMap_append_of_isMinor started?_of_isMinor _ minor)
  | delivered | told | gaveUp | returned | crashed | stored | recorded | ignored | closed | refused
  | ended => exact .inl (by simp)
  | waited | foundEmpty | resumed | gathered | lost | woke | began | flushed | arrived | left
  | reordered | cancelled | elapsed | dropped => exact .inl rfl

omit [Scalar Number] in
/-- What is there to know about the background receive that is started. -/
theorem started_append_of_announced
    {size number : Nat}
    {sizes : List Nat}
    (records : after.records = before.records ++
      [.asked (.publish (sizeEvent size)), .asked (.startFetch number sizes)]) :
    after.started = before.started ++ [(number, sizes)] := by
  simp [Session.started, records]

end Starting

/-- Every background receive is split as the options say. -/
structure Sized (setup : Setup Number) (session : Session Number) : Prop where
  options : session.subscription.receiveOptions = setup.receiving
  sizes : ∀ entry ∈ session.started, ∃ count, entry.2 = setup.receiving.split count

namespace Sized

variable {setup : Setup Number} {before after : Session Number} [Scalar Number]

theorem create (setup : Setup Number) : Sized setup setup.session where
  options := rfl
  sizes := by simp [Setup.session]

theorem change (change : Change before after) (sized : Sized setup before) : Sized setup after where
  options := change.receiveOptions.trans sized.options
  sizes entry member := by
    rcases change.started_cases with same | ⟨size, records⟩
    · exact sized.sizes entry (same ▸ member)
    · rw [started_append_of_announced records, List.mem_append, List.mem_singleton] at member
      rcases member with earlier | rfl
      · exact sized.sizes entry earlier
      · exact ⟨max size before.subscription.receiveOptions.lowerLimit, by
          rw [requestSizes, sized.options]⟩

end Sized

/-! ## Receivers that wait at rest -/

section Resting

variable {setup : Setup Number} {session : Session Number}

/-- A driver call of a background receive that is open has brought no messages. -/
theorem IsOpen.exists_unanswered {number : Nat} (unfinished : IsOpen session number) :
    ∃ sizes, (number, sizes) ∈ session.started ∧ ∃ place < sizes.length,
      ∀ envelopes, (number, place, envelopes) ∉ session.answers := by
  obtain ⟨values, answered, unknown⟩ := unfinished
  obtain ⟨sizes, started, length⟩ := answered.started
  obtain ⟨place, bound, nothing⟩ := List.getElem_of_mem unknown
  refine ⟨sizes, started, place, length ▸ bound, fun envelopes member => ?_⟩
  rw [← answered.answers, List.getElem?_eq_getElem bound, nothing] at member
  exact nomatch member

/-- With options that do not split a request, a background receive that is open has brought
nothing. -/
theorem IsOpen.unanswered_of_isWhole
    {number : Nat}
    (unfinished : IsOpen session number)
    (sized : Sized setup session)
    (whole : setup.receiving.IsWhole)
    (place : Nat)
    (envelopes : List Envelope) : (number, place, envelopes) ∉ session.answers := by
  obtain ⟨values, answered, unknown⟩ := unfinished
  obtain ⟨sizes, started, length⟩ := answered.started
  obtain ⟨count, split⟩ := sized.sizes _ started
  have single : values.length ≤ 1 := by
    rw [length, show sizes = _ from split]
    exact BatchOptions.length_split_le_one whole count
  intro member
  rw [← answered.answers] at member
  obtain ⟨bound, known⟩ := List.getElem?_eq_some_iff.mp member
  obtain ⟨other, otherBound, nothing⟩ := List.getElem_of_mem unknown
  obtain rfl : other = place := by omega
  exact nomatch nothing.symm.trans known

/-- While a receiver waits at rest, no background receive has come to an error. -/
theorem Sequential.lost_eq_nil
    (sequential : Sequential session)
    (tracked : Tracked session)
    {number : Nat}
    (noted : session.subscription.receiving = some number) : session.lost = [] := by
  apply List.eq_nil_iff_forall_not_mem.mpr
  intro other member
  have latest := sequential.latest number noted
  obtain ⟨same, -⟩ := sequential.lost other member
  obtain rfl : other = number := by omega
  have ended : other ∈ session.fetched := by
    obtain ⟨record, recorded, shown⟩ := List.mem_filterMap.mp member
    refine List.mem_filterMap.mpr ⟨record, recorded, ?_⟩
    cases record with
    | fetched fetch result => cases result <;> first | contradiction | exact shown
    | _ => contradiction
  exact (tracked.finished other (tracked.fetched other ended)).cleared noted

/-- A background receive that has come to a result, and not to an error, was stored. -/
theorem exists_stored_of_mem_fetched
    (untroubled : session.lost = [])
    {number : Nat}
    (ended : number ∈ session.fetched) : ∃ envelopes, (number, envelopes) ∈ session.stored := by
  obtain ⟨record, recorded, shown⟩ := List.mem_filterMap.mp ended
  cases record with
  | fetched fetch result =>
      obtain rfl : fetch = number := Option.some.inj shown
      cases result with
      | ok envelopes => exact ⟨envelopes, List.mem_filterMap.mpr ⟨_, recorded, rfl⟩⟩
      | error error =>
          have member : fetch ∈ session.lost := List.mem_filterMap.mpr ⟨_, recorded, rfl⟩
          rw [untroubled] at member
          contradiction
  | _ => contradiction

variable [Scalar Number]

theorem sequential_of_reached (reached : Reached setup session) : Sequential session :=
  reached.induction (.create setup) fun earlier change =>
    .change change (tracked_of_reached earlier)

theorem unfinished_of_reached (reached : Reached setup session) : Unfinished session :=
  reached.induction (.create setup) fun earlier change =>
    .change change (tracked_of_reached earlier) (gathering_of_reached earlier)

theorem sized_of_reached (reached : Reached setup session) : Sized setup session :=
  reached.preserve .change (.create setup)

/-- At rest, nobody waits for a background receive that has come to a result. -/
theorem not_isEnding_of_awaiting
    (resting : session.IsResting)
    {number : Nat}
    (waits : number ∈ session.awaiting) : ¬session.IsEnding number := by
  obtain ⟨activity, member, same⟩ := List.mem_filterMap.mp waits
  rintro (waking | woken)
  · obtain ⟨other, otherMember, isWaking⟩ := List.mem_filterMap.mp waking
    have rests := resting other otherMember
    cases other with
    | fetch task => cases task <;> contradiction
    | _ => contradiction
  · have rests := resting activity member
    cases activity with
    | receiver context receiver =>
        obtain ⟨other, rfl, unended, -⟩ := awaiting_of_isWaiting rests
        obtain rfl : other = number := Option.some.inj same
        rw [hasEnded, List.contains_eq_mem, decide_eq_false_iff_not] at unended
        exact unended woken
    | _ => contradiction

/-- At rest, a driver call of the background receive that is noted has not returned. -/
theorem isOpen_of_receiving
    (reached : Reached setup session)
    (resting : session.IsResting)
    {number : Nat}
    (noted : session.subscription.receiving = some number) : IsOpen session number := by
  have present : number ∈ session.inFlight ++ session.crashed :=
    (tracked_of_reached reached).receiving.mem_iff.mpr (Option.mem_toList.mpr noted)
  rcases List.mem_append.mp present with inFlight | crashed
  · obtain ⟨activity, member, same⟩ := List.mem_filterMap.mp inFlight
    have rests := resting activity member
    cases activity with
    | fetch task =>
        obtain ⟨other, calls, rfl, waiting⟩ := calling_of_isWaiting rests
        obtain rfl : other = number := Option.some.inj same
        have works : .calling other calls ∈ session.fetches :=
          List.mem_filterMap.mpr ⟨_, member, rfl⟩
        exact ⟨calls.values, (gathering_of_reached reached).fits _ works,
          Retry.Group.none_mem_values_of_isWaiting waiting⟩
    | _ => contradiction
  · exact unfinished_of_reached reached number crashed

end Resting

/-- A receiver that waits at rest waits for a background receive with a driver call that has not
returned. Nothing else keeps messages from it: the queue is empty, whatever was stored has been
delivered, and whatever any other background receive was given has been stored. -/
theorem withheld_only_by_unfinished_fetch
    [Scalar Number]
    (setup : Setup Number)
    (moves : List Move)
    {number : Nat}
    (resting : (sessionOf setup moves).IsResting)
    (waits : number ∈ (sessionOf setup moves).awaiting) :
    let session := sessionOf setup moves
    (number ∈ session.inFlight ∨ number ∈ session.crashed) ∧
    (∃ sizes, (number, sizes) ∈ session.started ∧ ∃ place < sizes.length,
      ∀ envelopes, (number, place, envelopes) ∉ session.answers) ∧
    session.subscription.queue = [] ∧
    session.delivered = (session.stored.flatMap Prod.snd).map setup.subscription.wrap ∧
    (∀ fetch place envelopes, (fetch, place, envelopes) ∈ session.answers → fetch ≠ number →
      ∃ values : List (List Envelope),
        values[place]? = some envelopes ∧ (fetch, values.flatten) ∈ session.stored) ∧
    (setup.receiving.IsWhole →
      ∀ place envelopes, (number, place, envelopes) ∉ session.answers) := by
  intro session
  have reached : Reached setup session := reached_sessionOf setup moves
  have tracked := tracked_of_reached reached
  have sequential := sequential_of_reached reached
  have conserved := conserved_of_reached reached
  have gathering := gathering_of_reached reached
  have noted : session.subscription.receiving = some number :=
    (tracked.whole number (tracked.awaiting number waits)).resolve_right
      (not_isEnding_of_awaiting resting waits)
  have unfinished : IsOpen session number := isOpen_of_receiving reached resting noted
  have empty : session.subscription.queue = [] := sequential.empty number waits noted
  refine ⟨?_, unfinished.exists_unanswered, empty, ?delivered, ?stored, fun whole => ?whole⟩
  · rw [← List.mem_append]
    exact tracked.receiving.mem_iff.mpr (Option.mem_toList.mpr noted)
  case delivered =>
    have whole := conserved.queue
    rw [empty, List.append_nil] at whole
    rw [conserved.delivered, whole]
  case stored =>
    intro fetch place envelopes answered other
    have started := gathering.known _ answered
    have ended : session.IsEnding fetch := by
      refine (tracked.whole fetch started).resolve_left fun same => other ?_
      exact Option.some.inj (same.symm.trans noted)
    obtain ⟨stored, member⟩ :=
      exists_stored_of_mem_fetched (sequential.lost_eq_nil tracked noted)
        (sequential.ended fetch ended)
    obtain ⟨values, known, rfl⟩ := gathering.stored _ member
    have present := (known.answers place envelopes).mpr answered
    exact ⟨values, by simpa using present, member⟩
  case whole => exact unfinished.unanswered_of_isWhole (sized_of_reached reached) whole

/-- A receiver waits at rest for a driver call that runs. -/
theorem withheld_by_running_call :
    let moves : List Move := [.receive 0, .turn 0 {}, .turn 0 {}]
    (sessionOf .exact moves).IsResting ∧ 0 ∈ (sessionOf .exact moves).awaiting ∧
      ∀ place envelopes, (0, place, envelopes) ∉ (sessionOf .exact moves).answers := by
  intro moves
  have resting : (sessionOf .exact moves).IsResting := by decide +kernel
  have waits : 0 ∈ (sessionOf .exact moves).awaiting := by decide +kernel
  exact ⟨resting, waits,
    (withheld_only_by_unfinished_fetch .exact moves resting waits).2.2.2.2.2 (by decide)⟩

/-- A setup with background receives of two concurrent calls, for one message each. -/
def Setup.paired : Setup Rat :=
  { Setup.exact with
    tuning := { Tuning.exact with initial := 2 }
    receiving := { maxHandlers := 2, maxSize := 1 } }

/-- One call of a background receive has returned a message and another one runs: a receiver
waits at rest for a message that the driver has handed out, and never gets it while that other
call runs. -/
theorem withheld_from_receiver :
    let envelope : Envelope := { body := [], ackId := some (.number 0) }
    let session := sessionOf .paired
      [.receive 0, .turn 0 {}, .turn 0 {}, .turn 0 { fetched := .returned (.ok [envelope]) },
        .turn 0 {}]
    session.IsResting ∧ session.awaiting = [0] ∧ session.inFlight = [0] ∧
      session.answers = [(0, 0, [envelope])] ∧ session.subscription.queue = [] ∧
      session.delivered = [] ∧
      ∀ later, (∀ move ∈ later, move.IsIdle) → (session.run later).delivered = [] := by
  intro envelope session
  have resting : session.IsResting := by decide +kernel
  have nothing : session.delivered = [] := by decide +kernel
  refine ⟨resting, ?_, ?_, ?_, ?_, nothing, fun later idle => ?forEver⟩
  case forEver =>
    obtain ⟨activities, run, -⟩ := resting.run_turns later idle
    rw [run]
    exact nothing
  all_goals decide +kernel

end Subscription
end PubSub
