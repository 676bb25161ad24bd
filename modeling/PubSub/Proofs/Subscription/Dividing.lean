import PubSub.Proofs.Subscription.Supply
import PubSub.Proofs.Subscription.Withholding

/-!
# How background receives are divided

The size of a background receive is announced just before it is started. It is moved up to the
smallest batch and divided among concurrent driver calls, or asked for by a single one if batches
are not limited; so there always is a call, and none of them asks for nothing. `Divided` says what a
background receive that was started with some sizes asks its driver for: nothing else, as long as it
goes on, and all of it, if it ends well.
-/

namespace PubSub
namespace Subscription

variable {Number : Type}

/-- What the sizes of the driver calls of a background receive are, and what is asked for. -/
structure Divided
    (options : BatchOptions)
    (session : Session Number)
    (number : Nat)
    (sizes : List Nat) : Prop where
  /-- The background receive was announced with a size, which its driver calls do not exceed
  together. -/
  announced : ∃ size, [.asked (.publish (sizeEvent size)), .asked (.startFetch number sizes)]
      <:+: session.records ∧
    sizes = options.split (max size (max options.minSize 1)) ∧
    sizes.sum ≤ max size (max options.minSize 1)
  nonempty : 1 ≤ sizes.length
  limited : sizes.length ≤ max options.maxHandlers 1
  bounds : ∀ requested ∈ sizes,
    1 ≤ requested ∧ (options.maxSize = 0 ∨ requested ≤ options.maxSize)
  /-- Its retried driver calls are made together. -/
  calls : ∀ calls, .fetch (.calling number calls) ∈ session.activities → calls.MakesOnly sizes
  /-- Every attempt of a driver call asks for what its size is. -/
  requests : ∀ place requested, (number, place, requested) ∈ session.requests →
    sizes[place]? = some requested
  /-- All driver calls were made if the background receive has ended well. -/
  stored : ∀ envelopes, (number, envelopes) ∈ session.stored →
    ∀ place requested, sizes[place]? = some requested →
      (number, place, requested) ∈ session.requests

variable [Scalar Number] {setup : Setup Number} {session : Session Number}

/-! ## Announcements -/

/-- A background receive was announced just before it was started, with the size that was
divided. -/
def IsAnnounced
    (options : BatchOptions)
    (records : List Record)
    (number : Nat)
    (sizes : List Nat) : Prop :=
  ∃ size, [.asked (.publish (sizeEvent size)), .asked (.startFetch number sizes)] <:+: records ∧
    sizes = options.split (max size options.lowerLimit)

omit [Scalar Number] in
theorem IsAnnounced.mono
    {options : BatchOptions}
    {records longer : List Record}
    {number : Nat}
    {sizes : List Nat}
    (announced : IsAnnounced options records number sizes)
    (known : records <+: longer) : IsAnnounced options longer number sizes := by
  obtain ⟨size, present, split⟩ := announced
  exact ⟨size, present.trans known.isInfix, split⟩

/-- Every background receive was announced. -/
def Announced (setup : Setup Number) (session : Session Number) : Prop :=
  ∀ number sizes, (number, sizes) ∈ session.started →
    IsAnnounced setup.receiving session.records number sizes

theorem Announced.change
    {before after : Session Number}
    (change : Change before after)
    (sized : Sized setup before)
    (announced : Announced setup before) : Announced setup after := by
  intro number sizes member
  rcases change.started_cases with same | ⟨size, records⟩
  · exact (announced number sizes (same ▸ member)).mono change.prefix_records
  · rw [started_append_of_announced records, List.mem_append, List.mem_singleton] at member
    rcases member with earlier | new
    · exact (announced number sizes earlier).mono change.prefix_records
    · cases new
      refine ⟨size, ?_, ?_⟩
      · rw [records]
        exact (List.suffix_append ..).isInfix
      · rw [requestSizes, sized.options]

theorem announced_of_reached (reached : Reached setup session) : Announced setup session := by
  apply reached.induction
  · intro number sizes member
    contradiction
  · intro before after earlier change announced
    exact announced.change change (sized_of_reached earlier)

/-! ## Driver calls -/

omit [Scalar Number] in
/-- Every driver call of a background receive that ended well was made. -/
theorem requested_of_stored
    (gathering : Gathering session)
    (requesting : Requesting session)
    (once : (session.started.map Prod.fst).Nodup)
    {number place requested : Nat}
    {sizes : List Nat}
    {envelopes : List Envelope}
    (started : (number, sizes) ∈ session.started)
    (stored : (number, envelopes) ∈ session.stored)
    (present : sizes[place]? = some requested) :
    (number, place, requested) ∈ session.requests := by
  obtain ⟨values, answered, -⟩ := gathering.stored _ stored
  obtain ⟨other, begun, length⟩ := answered.started
  have same := List.inj_on_of_nodup_map once begun started rfl
  cases same
  obtain ⟨inside, -⟩ := List.getElem?_eq_some_iff.mp present
  rw [← length, List.length_map] at inside
  have returned : (number, place, values[place]) ∈ session.answers := by
    rw [← answered.answers, List.getElem?_map, List.getElem?_eq_getElem inside]
    rfl
  obtain ⟨given, found, asked⟩ := requesting.requested_of_answered once started returned
  rw [present] at found
  cases found
  exact asked

theorem divided_sessionOf
    (setup : Setup Number)
    (moves : List Move)
    {number : Nat}
    {sizes : List Nat}
    (started : (number, sizes) ∈ (sessionOf setup moves).started) :
    Divided setup.receiving (sessionOf setup moves) number sizes := by
  have reached : Reached setup (sessionOf setup moves) := reached_sessionOf setup moves
  have requesting := requesting_sessionOf setup moves
  have once := (fits_sessionOf setup moves).nodup_started
  obtain ⟨size, announced, split⟩ := announced_of_reached reached number sizes started
  have enough : ¬max size setup.receiving.lowerLimit < setup.receiving.lowerLimit := by omega
  refine ⟨⟨size, announced, split, ?sum⟩, ?nonempty, ?limited, fun requested member => ?bounds,
    fun calls member => ?calls,
    fun place requested asked => requesting.getElem?_of_requested once started asked,
    fun envelopes stored place requested present =>
      requested_of_stored (gathering_of_reached reached) requesting once started stored present⟩
  case sum =>
    rw [split]
    exact setup.receiving.sum_split_le _
  case nonempty =>
    apply List.length_pos_iff.mpr
    intro nothing
    exact enough (BatchOptions.split_eq_nil_iff.mp (split.symm.trans nothing))
  case limited =>
    rw [split]
    exact setup.receiving.length_split_le _
  case bounds =>
    rw [split] at member
    exact BatchOptions.bounds_of_mem_split member
  case calls =>
    obtain ⟨other, begun, asks⟩ := requesting.calling number calls member
    have same := List.inj_on_of_nodup_map once (mem_started_iff.mpr begun) started rfl
    cases same
    exact asks.toMakesOnly

/-- A request is divided into whole batches and a last one, for no more than there is, or into no
calls if there is less than a batch needs. Each background receive of a subscription is started once
and divided so, and its driver calls ask for nothing else. -/
theorem background_receives_divided :
    (∀ (options : BatchOptions) (count : Nat),
      (options.split count = [] ↔ count < max options.minSize 1) ∧
      (max options.minSize 1 ≤ count → options.maxSize = 0 → options.split count = [count]) ∧
      (max options.minSize 1 ≤ count → 0 < options.maxSize →
        options.split count ≠ [] ∧
        options.Divides (max options.maxHandlers 1) count (options.split count))) ∧
    ∀ (setup : Setup Number) (moves : List Move),
      let session := sessionOf setup moves
      (session.started.map Prod.fst).Nodup ∧
      (∀ number sizes, (number, sizes) ∈ session.started →
        Divided setup.receiving session number sizes) ∧
      (∀ number calls, .fetch (.calling number calls) ∈ session.activities →
        ∃ sizes, (number, sizes) ∈ session.started) ∧
      ∀ number place requested, (number, place, requested) ∈ session.requests →
        ∃ sizes, (number, sizes) ∈ session.started := by
  refine ⟨fun options count => ⟨BatchOptions.split_eq_nil_iff, BatchOptions.split_of_unlimited,
    fun enough limited => ?divides⟩, fun setup moves => ⟨(fits_sessionOf setup moves).nodup_started,
    fun number sizes => divided_sessionOf setup moves, fun number calls member => ?calling,
    fun number place requested asked => ?asked⟩⟩
  case divides =>
    have divides := BatchOptions.divides_split enough limited
    exact ⟨divides.ne_nil, divides⟩
  case calling =>
    obtain ⟨sizes, begun, -⟩ := (requesting_sessionOf setup moves).calling number calls member
    exact ⟨sizes, mem_started_iff.mpr begun⟩
  case asked =>
    obtain ⟨sizes, begun, -⟩ :=
      (requesting_sessionOf setup moves).asked _ _ _ (mem_requests_iff.mp asked)
    exact ⟨sizes, mem_started_iff.mpr begun⟩

/-- A background receive of two messages is made by two driver calls for one each. -/
example :
    let setup : Setup Rat :=
      { Setup.exact with
        tuning := { Tuning.exact with initial := 2, maxSize := 2 }
        receiving := { maxHandlers := 2, maxSize := 1 } }
    let session := sessionOf setup [.receive 0, .turn 0 {}, .turn 0 {}, .turn 0 {}, .turn 0 {}]
    session.started = [(0, [1, 1])] ∧ session.requests = [(0, 0, 1), (0, 1, 1)] := by
  decide +kernel

end Subscription
end PubSub
