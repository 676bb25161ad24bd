import Mathlib.Algebra.Order.BigOperators.Group.List
import Mathlib.Algebra.Order.Field.Rat
import Mathlib.Data.List.Forall2
import PubSub.Prefetch.Estimator
import PubSub.Proofs.Batch.Splitting

/-!
# Sizes of background receives

The estimate is moved into the interval from one to the largest batch whenever a size is chosen,
but not before that: the first size is chosen while the estimate is as it was set up. `Chosen`
says which sizes may be chosen, whatever was measured.

Binary floating point rounds, so only what the sizes depend on has to be exact: `IsExact` says what
this is. Exact arithmetic has it, and binary floating point has it for counts up to `2 ^ 53`, but
for the product that a queue is compared with, which may be rounded.

A request is made by concurrent calls whose sizes add up to at most its size.
-/

namespace PubSub

/-! ## Concurrent calls -/

namespace BatchOptions

variable {Item : Type} {options : BatchOptions} {values : List (List Item)}

/-- Calls that return no more than they ask for return together no more than was requested. -/
theorem length_flatten_le_of_split
    {count : Nat}
    (modest : List.Forall₂ (fun value size => value.length ≤ size) values
      (options.split count)) :
    values.flatten.length ≤ count := by
  have parts : List.Forall₂ (· ≤ ·) (values.map List.length) (options.split count) :=
    List.forall₂_map_left_iff.mpr modest
  calc
    values.flatten.length = (values.map List.length).sum := List.length_flatten
    _ ≤ (options.split count).sum := parts.sum_le_sum
    _ ≤ count := options.sum_split_le count

/-- With batches of single messages there is one call, for one message. -/
theorem split_of_isSingle
    (single : options.isSingle = true)
    {count : Nat}
    (enough : options.lowerLimit ≤ count) : options.split count = [1] := by
  obtain ⟨one, alone⟩ : options.maxSize = 1 ∧ options.handlerLimit = 1 := by
    simpa [isSingle] using single
  have some : 1 ≤ count := Nat.le_trans options.lowerLimit_pos enough
  have reached : ¬count < options.lowerLimit := by omega
  rw [split, if_neg reached, one, if_neg (by decide), alone, splitOver, if_neg reached, one,
    Nat.min_eq_left some]
  rfl

end BatchOptions

/-! ## Arithmetic -/

variable {Number : Type} [Scalar Number]

/-- Every count up to this one, which is `2 ^ 53`, is a number of binary floating point. -/
def Binary64.exactLimit : Nat := 9007199254740992

/-- The arithmetic whose numbers are read as `read` is exact where the sizes of background receives
depend on it. -/
structure Scalar.IsExact (read : Number → Rat) : Prop where
  /-- What was moved below a count is below it. -/
  clamp : ∀ (value : Number) (limit : Nat), 1 ≤ limit → limit ≤ Binary64.exactLimit →
    read (Scalar.clamp value Scalar.one (Scalar.ofCount limit)) ≤ limit
  /-- The smallest count not below a number that is below another count is below it as well. -/
  ceil : ∀ (value : Number) (limit : Nat), limit ≤ Binary64.exactLimit →
    read value ≤ limit → Scalar.ceil value ≤ limit
  /-- A count is compared with the product of two numbers. -/
  atMost : ∀ (count : Nat) (value ratio : Number),
    Scalar.atMost (Scalar.ofCount count) (value * ratio) = true →
      (count : Rat) ≤ read value * read ratio
  /-- The ratio of two spans is not negative. -/
  ratio : ∀ tuning : Tuning Number, 0 ≤ read tuning.prefetchRatio

namespace Scalar

@[simp] theorem one_rat : (Scalar.one : Rat) = 1 := Rat.mkRat_one 1

@[simp] theorem ofCount_rat (count : Nat) : (Scalar.ofCount count : Rat) = count :=
  Rat.mkRat_one count

theorem ofSpan_rat_nonneg (span : Duration) : 0 ≤ (Scalar.ofSpan span : Rat) :=
  Rat.mkRat_nonneg (Int.natCast_nonneg span.nanos) _

theorem atMost_rat {left right : Rat} : Scalar.atMost left right = true ↔ left ≤ right := by
  rw [← Rat.not_lt]
  show (!right.blt left) = true ↔ ¬right.blt left = true
  rw [Bool.not_eq_true', Bool.not_eq_true]

theorem clamp_rat (value lower upper : Rat) :
    Scalar.clamp value lower upper =
      if value < lower then lower else if upper < value then upper else value := rfl

theorem ceil_rat (value : Rat) : Scalar.ceil value = value.ceil.toNat := rfl

/-- Exact arithmetic is exact. -/
theorem isExact_rat : IsExact (id : Rat → Rat) where
  clamp value limit some _ := by
    have one : (1 : Rat) ≤ limit := by exact_mod_cast some
    rw [id, one_rat, ofCount_rat, clamp_rat]
    split
    next => exact one
    next =>
      split
      next => exact Rat.le_refl
      next within => exact Rat.not_lt.mp within
  ceil value limit _ below := by
    rw [ceil_rat, Int.toNat_le, Rat.ceil_le_iff]
    exact below
  atMost count value ratio within := by
    rw [atMost_rat, ofCount_rat] at within
    exact within
  ratio tuning := by
    rw [id, Tuning.prefetchRatio]
    split
    next => rw [one_rat]; decide
    next => exact Rat.div_nonneg (ofSpan_rat_nonneg _) (ofSpan_rat_nonneg _)

end Scalar

/-! ## The size of the next receive -/

/-- The sizes that may be chosen with an estimate, whatever was measured, and the estimate after
that. -/
inductive Chosen (tuning : Tuning Number) (isSingle : Bool) (running : Number) :
    Nat → Number → Prop
  | one (single : isSingle = true) : Chosen tuning isSingle running 1 running
  | clamped {later : Number} (several : isSingle = false) (value : Number)
      (moved : later = Scalar.clamp value Scalar.one (Scalar.ofCount tuning.sizeLimit)) :
      Chosen tuning isSingle running (Scalar.ceil later) later

namespace Chosen

variable {tuning : Tuning Number} {isSingle : Bool} {running later : Number} {size : Nat}
  {read : Number → Rat}

/-- The estimate is below the largest batch after a size was chosen. -/
theorem read_le
    (chosen : Chosen tuning isSingle running size later)
    (several : isSingle = false)
    (exact : Scalar.IsExact read)
    (countable : tuning.sizeLimit ≤ Binary64.exactLimit) : read later ≤ tuning.sizeLimit := by
  cases chosen with
  | one single => rw [several] at single; contradiction
  | clamped _ value moved =>
      rw [moved]
      exact exact.clamp value tuning.sizeLimit (Nat.le_max_right ..) countable

/-- No size is above the largest batch. -/
theorem le_sizeLimit
    (chosen : Chosen tuning isSingle running size later)
    (exact : Scalar.IsExact read)
    (countable : tuning.sizeLimit ≤ Binary64.exactLimit) : size ≤ tuning.sizeLimit := by
  cases chosen with
  | one => exact Nat.le_max_right ..
  | clamped several value moved =>
      have chosen : Chosen tuning isSingle running (Scalar.ceil later) later :=
        .clamped several value moved
      have below := chosen.read_le several exact countable
      exact exact.ceil later tuning.sizeLimit countable below

end Chosen

namespace Estimator

variable (estimator : Estimator Number)

omit [Scalar Number] in
theorem exists_recordEmpty_eq (now : Nat) :
    ∃ stop, estimator.recordEmpty now = { estimator with stop } := by
  unfold recordEmpty
  split
  next => exact ⟨some now, rfl⟩
  next => exact ⟨estimator.stop, rfl⟩

omit [Scalar Number] in
theorem exists_recordArrival_eq (now : Nat) :
    ∃ start, estimator.recordArrival now = { estimator with start } := by
  unfold recordArrival
  split
  next => exact ⟨some now, rfl⟩
  next => exact ⟨estimator.start, rfl⟩

/-- The size of the next receive is one that may be chosen, and nothing else that sizes depend on
changes with it. -/
theorem exists_nextSize_eq (now queueLength : Nat) :
    ∃ size running start stop count,
      estimator.nextSize now queueLength = (size, { estimator with running, start, stop, count }) ∧
        Chosen estimator.tuning estimator.isSingle estimator.running size running := by
  by_cases single : estimator.isSingle = true
  · exact ⟨1, _, _, _, _, estimator.nextSize_of_isSingle now queueLength single, .one single⟩
  · refine ⟨_, _, _, _, _, if_neg single, ?_⟩
    exact .clamped (by simpa using single) _ rfl

end Estimator
end PubSub
