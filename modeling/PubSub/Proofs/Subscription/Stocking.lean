import PubSub.Proofs.Subscription.Supply

/-!
# How much the queue holds

A background receive is started only if none is in flight and the queue is short, and the receiver
that starts it takes a message as well. Until its result is stored the queue gets no longer. So
after that it holds no more than was left of a short queue and what the driver has returned, and
the driver is asked for no more than the size that was chosen.

The first background receive is an exception: the estimate may still be larger than the largest
batch, but the queue is empty.

This holds in every arithmetic that is exact where it has to be, if the largest batch is a number of
it. With batches of single messages, every driver call asks for one, whatever the tuning.
-/

namespace PubSub

namespace BatchOptions

/-- With batches of single messages the one call returns at most one. -/
theorem length_flatten_le_one {Item : Type}
    {options : BatchOptions}
    {values : List (List Item)}
    {count : Nat}
    (single : options.isSingle = true)
    (enough : options.lowerLimit ≤ count)
    (modest : List.Forall₂ (fun value size => value.length ≤ size) values
      (options.split count)) :
    values.flatten.length ≤ 1 := by
  rw [split_of_isSingle single enough] at modest
  cases modest with
  | cons fits later =>
      cases later
      simpa using fits

end BatchOptions

namespace Subscription

variable {Number : Type} [Scalar Number] {setup : Setup Number}

/-! ## What is stored -/

section Stored

variable {moves : List Move}

/-- If the driver never returns more messages than it was asked for, then what a background receive
has stored was returned by calls of the sizes that it was started for. -/
theorem exists_fitting_of_stored
    (modest : (sessionOf setup moves).IsModest)
    {result : Nat × List Envelope}
    (stored : result ∈ (sessionOf setup moves).stored) :
    ∃ running size later,
      Chosen setup.tuning setup.receiving.isSingle running size later ∧
      ∃ values : List (List Envelope), values.flatten = result.2 ∧
        List.Forall₂ (fun value size => value.length ≤ size) values
          (setup.receiving.split (max size setup.receiving.lowerLimit)) := by
  have fits := fits_sessionOf setup moves
  obtain ⟨values, answered, whole⟩ :=
    (gathering_of_reached (reached_sessionOf setup moves)).stored result stored
  obtain ⟨sizes, started, fitting⟩ := (requesting_sessionOf setup moves).forall₂_of_complete modest
    fits.nodup_started answered
  obtain ⟨running, size, later, chosen, split⟩ := fits.sizes _ started
  exact ⟨running, size, later, chosen, values, whole, split ▸ fitting⟩

/-- No background receive stores more than the largest batch, unless a batch must be larger. -/
theorem length_stored_le
    (modest : (sessionOf setup moves).IsModest)
    {read : Number → Rat}
    (exact : Scalar.IsExact read)
    (countable : setup.tuning.sizeLimit ≤ Binary64.exactLimit)
    {result : Nat × List Envelope}
    (stored : result ∈ (sessionOf setup moves).stored) :
    result.2.length ≤ max setup.tuning.sizeLimit setup.receiving.lowerLimit := by
  obtain ⟨running, size, later, chosen, values, whole, fitting⟩ :=
    exists_fitting_of_stored modest stored
  have bound := BatchOptions.length_flatten_le_of_split fitting
  have small := chosen.le_sizeLimit exact countable
  rw [whole] at bound
  omega

/-- With batches of single messages no background receive stores more than one. -/
theorem length_stored_le_one
    (modest : (sessionOf setup moves).IsModest)
    (single : setup.receiving.isSingle = true)
    {result : Nat × List Envelope}
    (stored : result ∈ (sessionOf setup moves).stored) : result.2.length ≤ 1 := by
  obtain ⟨running, size, later, chosen, values, whole, fitting⟩ :=
    exists_fitting_of_stored modest stored
  rw [← whole]
  exact BatchOptions.length_flatten_le_one single (Nat.le_max_right ..) fitting

/-- With batches of single messages every background receive is one call, for one message. -/
theorem sizes_eq_one
    (single : setup.receiving.isSingle = true)
    {background : Nat × List Nat}
    (started : background ∈ (sessionOf setup moves).started) : background.2 = [1] := by
  obtain ⟨running, size, later, chosen, split⟩ := (fits_sessionOf setup moves).sizes _ started
  exact split.trans (BatchOptions.split_of_isSingle single (Nat.le_max_right ..))

/-- With batches of single messages every driver call asks for one. -/
theorem requested_eq_one
    (single : setup.receiving.isSingle = true)
    {number place requested : Nat}
    (asked : (number, place, requested) ∈ (sessionOf setup moves).requests) : requested = 1 := by
  obtain ⟨sizes, started, present⟩ :=
    (requesting_sessionOf setup moves).asked _ _ _ (mem_requests_iff.mp asked)
  have same : sizes = [1] := sizes_eq_one single (mem_started_iff.mpr started)
  rw [same] at present
  exact List.mem_singleton.mp (List.mem_of_getElem? present)

end Stored

/-! ## What is queued -/

/-- While a background receive is in flight the queue is short, and otherwise it is longer by what
a background receive stores at most. -/
structure Supply.Within (low : Rat) (batch : Nat) (supply : Supply Number) : Prop where
  inFlight : supply.receiving ≠ none → (supply.queue.length : Rat) ≤ low
  always : (supply.queue.length : Rat) ≤ low + batch

omit [Scalar Number] in
theorem cast_length_tail_le (queue : List Envelope) :
    (queue.tail.length : Rat) ≤ queue.length := by
  rw [List.length_tail]
  exact_mod_cast Nat.sub_le ..

theorem Supply.Within.step
    {low : Rat}
    {batch : Nat}
    {supply later : Supply Number}
    (within : supply.Within low batch)
    (step : supply.Step later)
    (starts : supply.receiving = none → supply.isLow = true →
      (supply.queue.tail.length : Rat) ≤ low)
    (small : ∀ result ∈ later.stored, result.2.length ≤ batch) : later.Within low batch := by
  have some : (0 : Rat) ≤ batch := by exact_mod_cast Nat.zero_le batch
  cases step with
  | kept => exact within
  | taken =>
      have shorter := cast_length_tail_le supply.queue
      exact ⟨fun noted => shorter.trans (within.inFlight noted), shorter.trans within.always⟩
  | begun idle short chosen =>
      have left := starts idle short
      exact ⟨fun _ => left, left.trans (le_add_of_nonneg_right some)⟩
  | stored number envelopes noted =>
      have brought : envelopes.length ≤ batch := small (number, envelopes) (by simp)
      refine ⟨fun other => absurd rfl other, ?_⟩
      rw [List.length_append, Nat.cast_add]
      exact add_le_add (within.inFlight noted) (Nat.cast_le.mpr brought)
  | failed noted => exact ⟨fun other => absurd rfl other, within.always⟩

/-- A queue that is always short when a background receive is started is never too long. -/
theorem within_sessionOf
    {low : Rat}
    {batch : Nat}
    (nonneg : 0 ≤ low)
    (starts : ∀ earlier : List Move, (sessionOf setup earlier).supply.Within low batch →
      (sessionOf setup earlier).supply.receiving = none →
      (sessionOf setup earlier).supply.isLow = true →
        ((sessionOf setup earlier).supply.queue.tail.length : Rat) ≤ low)
    {moves : List Move}
    (small : ∀ result ∈ (sessionOf setup moves).stored, result.2.length ≤ batch) :
    (sessionOf setup moves).supply.Within low batch := by
  induction moves using List.reverseRecOn with
  | nil =>
      have empty : ((0 : Nat) : Rat) ≤ low + batch := by
        rw [Nat.cast_zero]
        exact add_nonneg nonneg (Nat.cast_nonneg batch)
      exact ⟨fun noted => absurd rfl noted, empty⟩
  | append_singleton moves move hypothesis =>
      have earlier :
          (sessionOf setup moves).stored ⊆ (sessionOf setup (moves ++ [move])).stored := by
        rw [sessionOf_append_singleton]
        exact ((changes_step _ move).prefix_records.filterMap Record.stored?).subset
      have within := hypothesis fun result stored => small result (earlier stored)
      exact within.step (supply_append_singleton setup moves move) (starts moves within) small

/-- With batches of single messages the queue never holds more than one. -/
theorem within_of_isSingle
    {moves : List Move}
    (modest : (sessionOf setup moves).IsModest)
    (single : setup.receiving.isSingle = true) :
    (sessionOf setup moves).supply.Within 0 1 := by
  refine within_sessionOf (le_refl 0) (fun earlier within _ _ => ?_)
    (fun result => length_stored_le_one modest single)
  have one : (sessionOf setup earlier).supply.queue.length ≤ 1 := by
    have always := within.always
    rw [zero_add] at always
    exact_mod_cast always
  rw [List.length_tail, Nat.sub_eq_zero_of_le one, Nat.cast_zero]

section Estimated

variable {read : Number → Rat}

/-- The estimate is below the largest batch, unless nothing was started yet. -/
theorem empty_or_read_le
    (several : setup.receiving.isSingle = false)
    (exact : Scalar.IsExact read)
    (countable : setup.tuning.sizeLimit ≤ Binary64.exactLimit)
    (moves : List Move) :
    ((sessionOf setup moves).supply.queue = [] ∧ (sessionOf setup moves).supply.receiving = none) ∨
      read (sessionOf setup moves).supply.running ≤ setup.tuning.sizeLimit := by
  induction moves using List.reverseRecOn with
  | nil => exact .inl ⟨rfl, rfl⟩
  | append_singleton moves move hypothesis =>
      have fits := fits_sessionOf setup moves
      have step := supply_append_singleton setup moves move
      generalize (sessionOf setup (moves ++ [move])).supply = later at step ⊢
      generalize (sessionOf setup moves).supply = supply at fits step hypothesis
      cases step with
      | kept => exact hypothesis
      | taken => exact hypothesis.imp_left fun ⟨empty, idle⟩ => ⟨by simp [empty], idle⟩
      | begun idle low chosen =>
          rw [fits.tuning, fits.isSingle] at chosen
          exact .inr (chosen.read_le several exact countable)
      | stored _ _ noted | failed noted =>
          exact .inr (hypothesis.resolve_left fun empty => noted empty.2)

/-- A background receive is started only if the queue holds no more than the given share of the
largest batch. -/
theorem length_le_of_isLow
    (several : setup.receiving.isSingle = false)
    (exact : Scalar.IsExact read)
    (countable : setup.tuning.sizeLimit ≤ Binary64.exactLimit)
    {moves : List Move}
    (low : (sessionOf setup moves).supply.isLow = true) :
    ((sessionOf setup moves).supply.queue.length : Rat) ≤
      setup.tuning.sizeLimit * read setup.tuning.prefetchRatio := by
  have ratio := exact.ratio setup.tuning
  rcases empty_or_read_le several exact countable moves with ⟨empty, -⟩ | below
  · rw [empty, List.length_nil, Nat.cast_zero]
    exact mul_nonneg (Nat.cast_nonneg _) ratio
  · have compared := exact.atMost _ _ _ low
    rw [(fits_sessionOf setup moves).tuning] at compared
    exact compared.trans (mul_le_mul_of_nonneg_right below ratio)

theorem within_of_estimated
    {moves : List Move}
    (modest : (sessionOf setup moves).IsModest)
    (several : setup.receiving.isSingle = false)
    (exact : Scalar.IsExact read)
    (countable : setup.tuning.sizeLimit ≤ Binary64.exactLimit) :
    (sessionOf setup moves).supply.Within
      (setup.tuning.sizeLimit * read setup.tuning.prefetchRatio)
      (max setup.tuning.sizeLimit setup.receiving.lowerLimit) := by
  refine within_sessionOf (mul_nonneg (Nat.cast_nonneg _) (exact.ratio _))
    (fun earlier _ _ low => ?_) (fun result => length_stored_le modest exact countable)
  exact (cast_length_tail_le _).trans (length_le_of_isLow several exact countable low)

end Estimated

/-- If the driver returns no more messages than it was asked for, the queue never holds more than
the largest batch times the fill level at which a receive starts, and the largest or the smallest
batch on top of that. With batches of single messages it never holds more than one. -/
theorem queue_bounded
    (setup : Setup Number)
    (moves : List Move)
    (modest : (sessionOf setup moves).IsModest) :
    let session := sessionOf setup moves
    (∀ read : Number → Rat, Scalar.IsExact read →
      setup.tuning.sizeLimit ≤ Binary64.exactLimit →
        (session.subscription.queue.length : Rat) ≤
          setup.tuning.sizeLimit * read setup.tuning.prefetchRatio +
            (max setup.tuning.sizeLimit setup.receiving.lowerLimit : Nat)) ∧
    (setup.receiving.isSingle = true →
      session.subscription.queue.length ≤ 1 ∧
        ∀ number place requested, (number, place, requested) ∈ session.requests →
          requested = 1) := by
  intro session
  have one (single : setup.receiving.isSingle = true) : session.subscription.queue.length ≤ 1 := by
    have always := (within_of_isSingle modest single).always
    rw [zero_add] at always
    exact_mod_cast always
  refine ⟨fun read exact countable => ?bounded, fun single => ⟨one single, fun _ _ _ =>
    requested_eq_one single⟩⟩
  case bounded =>
    cases single : setup.receiving.isSingle with
    | false => exact (within_of_estimated modest single exact countable).always
    | true =>
        have batch : session.subscription.queue.length ≤
            max setup.tuning.sizeLimit setup.receiving.lowerLimit :=
          (one single).trans ((Nat.le_max_right ..).trans (Nat.le_max_left ..))
        have low : 0 ≤ (setup.tuning.sizeLimit : Rat) * read setup.tuning.prefetchRatio :=
          mul_nonneg (Nat.cast_nonneg _) (exact.ratio _)
        exact (Nat.cast_le.mpr batch).trans (le_add_of_nonneg_left low)

/-- A setup with background receives of one call, for two messages, each started when the queue
holds one message. -/
def Setup.doubled : Setup Rat :=
  { Setup.exact with
    tuning := { Tuning.exact with initial := 2, maxSize := 2 }
    receiving := {} }

/-- Two messages were returned to a call for two, and they are queued. -/
theorem queue_bounded_of_two :
    let envelope : Envelope := { body := [], ackId := some (.number 0) }
    let session := sessionOf .doubled
      [.receive 0, .turn 0 {}, .turn 0 {},
        .turn 0 { fetched := .returned (.ok [envelope, envelope]) }, .turn 0 {}, .turn 0 {}]
    session.IsModest ∧ session.requests = [(0, 0, 2)] ∧ session.subscription.queue.length = 2 ∧
      (session.subscription.queue.length : Rat) ≤ 3 := by
  intro envelope session
  have modest : session.IsModest := by decide +kernel
  refine ⟨modest, by decide +kernel, by decide +kernel, ?_⟩
  have bound : (2 : Nat) * id Setup.doubled.tuning.prefetchRatio + (max 2 1 : Nat) = (3 : Rat) := by
    decide +kernel
  rw [← bound]
  exact (queue_bounded .doubled _ modest).1 id Scalar.isExact_rat (by decide)

end Subscription
end PubSub
