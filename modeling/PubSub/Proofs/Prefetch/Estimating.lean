import Mathlib.Order.Lattice
import PubSub.Proofs.Prefetch.Sizes

/-!
# How far the estimate moves

An estimator is told what happens to the queue and is asked for sizes now and then. Whatever it was
told, the estimate that a size is taken from is in the interval from one to the largest batch, and
nothing was divided by the length of an empty window.

It also moves by no more than the factors of the tuning. Moving it into the interval afterwards does
not spoil this, because the interval contains the estimate from before: what lies outside is moved
towards it.

The arithmetic here is exact.
-/

namespace PubSub

/-! ## Exact arithmetic -/

namespace Scalar

variable {value lower upper low high : Rat}

theorem least_rat (left right : Rat) : Scalar.least left right = min left right := by
  rw [min_comm, min_def_lt]
  rfl

theorem greatest_rat (left right : Rat) : Scalar.greatest left right = max left right := by
  rw [max_def_lt]
  rfl

/-- What is moved into an interval is in it. -/
theorem clamp_mem (proper : lower ≤ upper) :
    lower ≤ Scalar.clamp value lower upper ∧ Scalar.clamp value lower upper ≤ upper := by
  rw [clamp_rat]
  split
  next => exact ⟨le_refl lower, proper⟩
  next above =>
    split
    next => exact ⟨proper, le_refl upper⟩
    next below => exact ⟨not_lt.mp above, not_lt.mp below⟩

/-- The smallest count not below a number of an interval of counts is in this interval. -/
theorem ceil_mem
    {limit : Nat}
    (within : 1 ≤ value ∧ value ≤ limit) :
    (Scalar.ceil value : Int) = value.ceil ∧ 1 ≤ Scalar.ceil value ∧ Scalar.ceil value ≤ limit := by
  have some : 0 < value.ceil := Rat.lt_ceil_iff.mpr (zero_lt_one.trans_le within.1)
  have few : value.ceil ≤ limit := Rat.ceil_le_iff.mpr (by exact_mod_cast within.2)
  rw [ceil_rat]
  omega

/-- What is between two bounds stays there when it is moved into an interval that reaches from below
the upper bound to above the lower one. -/
theorem clamp_between
    (within : low ≤ value ∧ value ≤ high)
    (reachesDown : lower ≤ high)
    (reachesUp : low ≤ upper) :
    low ≤ Scalar.clamp value lower upper ∧ Scalar.clamp value lower upper ≤ high := by
  rw [clamp_rat]
  split
  next below => exact ⟨within.1.trans below.le, reachesDown⟩
  next =>
    split
    next above => exact ⟨reachesUp, above.le.trans within.2⟩
    next => exact within

end Scalar

/-- An estimate that was not below one is not below one after a size was chosen. -/
theorem Chosen.one_le
    {tuning : Tuning Rat}
    {isSingle : Bool}
    {running later : Rat}
    {size : Nat}
    (chosen : Chosen tuning isSingle running size later)
    (before : 1 ≤ running) : 1 ≤ later := by
  cases chosen with
  | one => exact before
  | clamped several value moved =>
      have proper : (1 : Rat) ≤ tuning.sizeLimit := by exact_mod_cast Nat.le_max_right ..
      rw [moved, Scalar.one_rat, Scalar.ofCount_rat]
      exact (Scalar.clamp_mem proper).1

namespace Estimator

/-! ## What an estimator is told -/

/-- Something that an estimator is told, or that it is asked for a size. -/
inductive Observation
  | delivery
  | empty (now : Nat)
  | arrival (now : Nat)
  | sizing (now queueLength : Nat)

section Observing

variable {Number : Type} [Scalar Number] (estimator : Estimator Number)

def observe : Observation → Estimator Number
  | .delivery => estimator.recordDelivery
  | .empty now => estimator.recordEmpty now
  | .arrival now => estimator.recordArrival now
  | .sizing now queueLength => (estimator.nextSize now queueLength).2

/-- One observation after the other. -/
def observeAll (observations : List Observation) : Estimator Number :=
  observations.foldl observe estimator

/-- Only the estimate and what is measured for it ever change. -/
theorem exists_observe_eq (observation : Observation) :
    ∃ running start stop count,
      estimator.observe observation = { estimator with running, start, stop, count } := by
  cases observation with
  | delivery => exact ⟨_, _, _, _, rfl⟩
  | empty now =>
      obtain ⟨stop, same⟩ := estimator.exists_recordEmpty_eq now
      exact ⟨_, _, _, _, same⟩
  | arrival now =>
      obtain ⟨start, same⟩ := estimator.exists_recordArrival_eq now
      exact ⟨_, _, _, _, same⟩
  | sizing now queueLength =>
      obtain ⟨size, running, start, stop, count, same, -⟩ :=
        estimator.exists_nextSize_eq now queueLength
      exact ⟨running, start, stop, count, congrArg Prod.snd same⟩

theorem exists_observeAll_eq (observations : List Observation) :
    ∃ running start stop count,
      estimator.observeAll observations = { estimator with running, start, stop, count } := by
  induction observations generalizing estimator with
  | nil => exact ⟨_, _, _, _, rfl⟩
  | cons observation later hypothesis =>
      obtain ⟨running, start, stop, count, same⟩ := estimator.exists_observe_eq observation
      rw [observeAll, List.foldl_cons, same]
      exact hypothesis _

@[simp] theorem tuning_observeAll (observations : List Observation) :
    (estimator.observeAll observations).tuning = estimator.tuning := by
  obtain ⟨_, _, _, _, same⟩ := estimator.exists_observeAll_eq observations
  rw [same]

@[simp] theorem isSingle_observeAll (observations : List Observation) :
    (estimator.observeAll observations).isSingle = estimator.isSingle := by
  obtain ⟨_, _, _, _, same⟩ := estimator.exists_observeAll_eq observations
  rw [same]

/-- The size of a batch that is not of single messages. -/
theorem nextSize_of_several (several : estimator.isSingle = false) (now queueLength : Nat) :
    estimator.nextSize now queueLength =
      (Scalar.ceil (estimator.updated now),
        { estimator with
          running := estimator.updated now
          start := if queueLength = 0 then none else some now
          stop := none
          count := 0 }) :=
  if_neg (by simp [several])

end Observing

/-! ## One size -/

section Sizing

variable {estimator : Estimator Rat}

/-- No window is too short to be divided by. -/
theorem ofSpan_elapsed_pos (start stop : Nat) :
    0 < (Scalar.ofSpan (elapsed start stop) : Rat) := by
  have some : 0 < (elapsed start stop).nanos := by
    unfold elapsed
    split
    next => decide
    next other => exact Nat.pos_of_ne_zero other
  show 0 < mkRat (elapsed start stop).nanos 1000000000
  rw [Rat.mkRat_eq_div]
  exact div_pos (by exact_mod_cast some) (by decide)

/-- What was measured is between the estimate times the one factor and times the other. -/
theorem measured_between
    (start stop : Nat)
    (ordered : estimator.running * estimator.tuning.shrink ≤
      estimator.running * estimator.tuning.growth) :
    estimator.running * estimator.tuning.shrink ≤ estimator.measured start stop ∧
      estimator.measured start stop ≤ estimator.running * estimator.tuning.growth := by
  unfold measured
  rw [Scalar.greatest_rat, Scalar.least_rat]
  exact ⟨le_max_right .., max_le (min_le_right ..) ordered⟩

theorem updated_mem (now : Nat) :
    1 ≤ estimator.updated now ∧ estimator.updated now ≤ estimator.tuning.sizeLimit := by
  have proper : (1 : Rat) ≤ estimator.tuning.sizeLimit := by exact_mod_cast Nat.le_max_right ..
  unfold updated
  rw [Scalar.one_rat, Scalar.ofCount_rat]
  exact Scalar.clamp_mem proper

/-- An estimate inside of the interval moves by no more than the factors. -/
theorem updated_between
    (now : Nat)
    (above : 1 ≤ estimator.running)
    (below : estimator.running ≤ estimator.tuning.sizeLimit)
    (shrinks : estimator.tuning.shrink ≤ 1)
    (grows : 1 ≤ estimator.tuning.growth) :
    estimator.running * estimator.tuning.shrink ≤ estimator.updated now ∧
      estimator.updated now ≤ estimator.running * estimator.tuning.growth := by
  have nonneg : 0 ≤ estimator.running := zero_le_one.trans above
  have least : estimator.running * estimator.tuning.shrink ≤ estimator.running :=
    mul_le_of_le_one_right nonneg shrinks
  have greatest : estimator.running ≤ estimator.running * estimator.tuning.growth :=
    le_mul_of_one_le_right nonneg grows
  unfold updated
  rw [Scalar.one_rat, Scalar.ofCount_rat]
  refine Scalar.clamp_between ?_ (above.trans greatest) (least.trans below)
  split
  next => exact ⟨least, greatest⟩
  next start opened => exact measured_between start _ (least.trans greatest)

end Sizing

/-- Whatever an estimator was told, the estimate is between one and the largest batch after a size
was chosen, and the size is the smallest count not below it. If it was so before and the factors of
the tuning enclose one, then it has moved by no more than these factors. -/
theorem estimate_bounded
    (estimator : Estimator Rat)
    (several : estimator.isSingle = false)
    (observations : List Observation)
    (now queueLength : Nat) :
    let tuning := estimator.tuning
    let before := estimator.observeAll observations
    let size := (before.nextSize now queueLength).1
    let after := (before.nextSize now queueLength).2
    (∀ start stop, (Scalar.ofSpan (elapsed start stop) : Rat) ≠ 0) ∧
    1 ≤ after.running ∧ after.running ≤ tuning.sizeLimit ∧
    (size : Int) = after.running.ceil ∧ 1 ≤ size ∧ size ≤ tuning.sizeLimit ∧
    (1 ≤ before.running → before.running ≤ tuning.sizeLimit →
      tuning.shrink ≤ 1 → 1 ≤ tuning.growth →
        before.running * tuning.shrink ≤ after.running ∧
          after.running ≤ before.running * tuning.growth) := by
  intro tuning before size after
  have sized := before.nextSize_of_several (by simp [before, several]) now queueLength
  have moved : after.running = before.updated now := congrArg (·.2.running) sized
  have rounded : size = Scalar.ceil after.running := by
    rw [moved]
    exact congrArg Prod.fst sized
  have tuned : before.tuning = tuning := estimator.tuning_observeAll observations
  have inside : 1 ≤ after.running ∧ after.running ≤ tuning.sizeLimit := by
    rw [moved, ← tuned]
    exact before.updated_mem now
  obtain ⟨least, some, few⟩ := Scalar.ceil_mem inside
  have between := before.updated_between now
  rw [tuned, ← moved] at between
  rw [← rounded] at least some few
  have divides (start stop : Nat) : (Scalar.ofSpan (elapsed start stop) : Rat) ≠ 0 :=
    (ofSpan_elapsed_pos start stop).ne'
  exact ⟨divides, inside.1, inside.2, least, some, few, between⟩

/-- Sixty messages were handed out in one second, so two seconds take 120, and the estimate moves
half the way. -/
theorem estimate_bounded_of_sixty :
    let estimator : Estimator Rat := Estimator.create { Tuning.exact with initial := 100 } {}
    let before := estimator.observeAll
      (.arrival 0 :: List.replicate 60 .delivery ++ [.empty 1000000000])
    (before.nextSize 2000000000 0).1 = 110 ∧
      (100 : Rat) * (3 / 4) ≤ (before.nextSize 2000000000 0).2.running ∧
      (before.nextSize 2000000000 0).2.running ≤ 100 * 2 := by
  intro estimator before
  have hundred : before.running = 100 := by decide +kernel
  have moved := (estimate_bounded estimator (by decide)
    (.arrival 0 :: List.replicate 60 .delivery ++ [.empty 1000000000]) 2000000000 0).2.2.2.2.2.2
  refine ⟨by decide +kernel, ?_⟩
  rw [← hundred]
  exact moved (by decide +kernel) (by decide +kernel) (by decide +kernel) (by decide +kernel)

end Estimator
end PubSub
