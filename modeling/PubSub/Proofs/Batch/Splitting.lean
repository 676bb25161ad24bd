import Mathlib.Algebra.GroupWithZero.Nat
import PubSub.Batch.Options

/-!
# How a request is divided

A request for some number of items is made by concurrent calls, as many as handlers may work at
the same time. Each of them asks for the largest batch but for the last, which may be smaller, and
nothing is asked for once less than the smallest batch is left. `Divides` says this of the sizes
of the calls, and `divides_splitOver` follows the slots that are given away.
-/

namespace PubSub
namespace BatchOptions

variable {options : BatchOptions}

/-- Sizes of at most `slots` calls into which a request for `count` items is divided, with batches
that are limited: whole batches and a last one, until the slots are used up or less than a batch
must have is left. -/
structure Divides (options : BatchOptions) (slots count : Nat) (sizes : List Nat) : Prop where
  limited : sizes.length ≤ slots
  shape : ∃ whole last, sizes = List.replicate whole options.maxSize ++ [last] ∧
    1 ≤ last ∧ last ≤ options.maxSize
  sum_le : sizes.sum ≤ count
  complete : sizes.length = slots ∨ count - sizes.sum < options.lowerLimit

namespace Divides

variable {slots count : Nat} {sizes : List Nat}

theorem ne_nil (divides : options.Divides slots count sizes) : sizes ≠ [] := by
  obtain ⟨whole, last, rfl, -⟩ := divides.shape
  simp

theorem bounds
    (divides : options.Divides slots count sizes)
    {size : Nat}
    (member : size ∈ sizes) : 1 ≤ size ∧ size ≤ options.maxSize := by
  obtain ⟨whole, last, rfl, some, most⟩ := divides.shape
  rcases List.mem_append.mp member with full | final
  · rw [List.eq_of_mem_replicate full]
    omega
  · rw [List.mem_singleton.mp final]
    exact ⟨some, most⟩

/-- A single call for all that is left, or for a whole batch. -/
theorem single
    {size : Nat}
    (some : 1 ≤ size)
    (most : size ≤ options.maxSize)
    (available : size ≤ count)
    (complete : slots = 0 ∨ count - size < options.lowerLimit) :
    options.Divides (slots + 1) count [size] where
  limited := by simp
  shape := ⟨0, size, rfl, some, most⟩
  sum_le := by simpa using available
  complete := by
    rcases complete with rfl | little
    · exact .inl rfl
    · exact .inr (by simpa using little)

/-- A whole batch before the others. -/
theorem cons
    (divides : options.Divides slots (count - options.maxSize) sizes)
    (available : options.maxSize ≤ count) :
    options.Divides (slots + 1) count (options.maxSize :: sizes) where
  limited := Nat.succ_le_succ divides.limited
  shape := by
    obtain ⟨whole, last, rfl, bounds⟩ := divides.shape
    exact ⟨whole + 1, last, rfl, bounds⟩
  sum_le := by
    have others := divides.sum_le
    rw [List.sum_cons]
    omega
  complete := by
    rcases divides.complete with all | little
    · exact .inl (congrArg Nat.succ all)
    · refine .inr ?_
      rw [List.sum_cons]
      omega

end Divides

/-! ## Slots -/

theorem splitOver_of_lt
    {left : Nat}
    (little : left < options.lowerLimit)
    (slots : Nat) : options.splitOver slots left = [] := by
  cases slots with
  | zero => rfl
  | succ slots => rw [splitOver, if_pos little]

theorem splitOver_succ
    {left : Nat}
    (enough : options.lowerLimit ≤ left)
    (slots : Nat) :
    options.splitOver (slots + 1) left =
      min options.maxSize left ::
        options.splitOver slots (left - min options.maxSize left) := by
  rw [splitOver, if_neg (Nat.not_lt.mpr enough)]

/-- The slots are given away one after the other. -/
theorem divides_splitOver
    (limited : 0 < options.maxSize)
    (slots : Nat) :
    ∀ left, options.lowerLimit ≤ left →
      options.Divides (slots + 1) left (options.splitOver (slots + 1) left) := by
  induction slots with
  | zero =>
      intro left enough
      have some := options.lowerLimit_pos
      rw [splitOver_succ enough]
      exact .single (by omega) (Nat.min_le_left ..) (Nat.min_le_right ..) (.inl rfl)
  | succ slots hypothesis =>
      intro left enough
      have some := options.lowerLimit_pos
      rw [splitOver_succ enough]
      by_cases little : left - min options.maxSize left < options.lowerLimit
      · rw [splitOver_of_lt little]
        exact .single (by omega) (Nat.min_le_left ..) (Nat.min_le_right ..) (.inr little)
      · -- More than this call asks for is left, so the call asks for a whole batch.
        have whole : min options.maxSize left = options.maxSize := by omega
        rw [whole] at little ⊢
        exact (hypothesis _ (by omega)).cons (by omega)

/-! ## Requests -/

theorem split_eq_nil_of_lt {count : Nat} (little : count < options.lowerLimit) :
    options.split count = [] := by
  rw [split, if_pos little]

/-- With batches that are not limited one call asks for everything. -/
theorem split_of_unlimited
    {count : Nat}
    (enough : options.lowerLimit ≤ count)
    (unlimited : options.maxSize = 0) : options.split count = [count] := by
  rw [split, if_neg (Nat.not_lt.mpr enough), if_pos unlimited]

theorem divides_split
    {count : Nat}
    (enough : options.lowerLimit ≤ count)
    (limited : 0 < options.maxSize) :
    options.Divides options.handlerLimit count (options.split count) := by
  rw [split, if_neg (Nat.not_lt.mpr enough), if_neg (Nat.ne_of_gt limited)]
  have slots : options.handlerLimit - 1 + 1 = options.handlerLimit :=
    Nat.succ_pred_eq_of_pos options.handlerLimit_pos
  rw [← slots]
  exact divides_splitOver limited _ count enough

/-- Nothing is asked for, or one call asks for everything, or the request is divided. -/
theorem split_cases (options : BatchOptions) (count : Nat) :
    (count < options.lowerLimit ∧ options.split count = []) ∨
      (options.lowerLimit ≤ count ∧ options.maxSize = 0 ∧ options.split count = [count]) ∨
      (options.lowerLimit ≤ count ∧ 0 < options.maxSize ∧
        options.Divides options.handlerLimit count (options.split count)) := by
  rcases Nat.lt_or_ge count options.lowerLimit with little | enough
  · exact .inl ⟨little, split_eq_nil_of_lt little⟩
  · rcases Nat.eq_zero_or_pos options.maxSize with unlimited | limited
    · exact .inr (.inl ⟨enough, unlimited, split_of_unlimited enough unlimited⟩)
    · exact .inr (.inr ⟨enough, limited, divides_split enough limited⟩)

theorem split_eq_nil_iff {count : Nat} :
    options.split count = [] ↔ count < options.lowerLimit := by
  refine ⟨fun nothing => ?_, split_eq_nil_of_lt⟩
  rcases options.split_cases count with ⟨little, -⟩ | ⟨_, _, one⟩ | ⟨_, _, divides⟩
  · exact little
  · exact absurd (one.symm.trans nothing) (List.cons_ne_nil _ _)
  · exact absurd nothing divides.ne_nil

theorem length_split_le (options : BatchOptions) (count : Nat) :
    (options.split count).length ≤ options.handlerLimit := by
  rcases options.split_cases count with ⟨_, none⟩ | ⟨_, _, one⟩ | ⟨_, _, divides⟩
  · rw [none]
    exact Nat.zero_le _
  · rw [one]
    exact options.handlerLimit_pos
  · exact divides.limited

theorem sum_split_le (options : BatchOptions) (count : Nat) :
    (options.split count).sum ≤ count := by
  rcases options.split_cases count with ⟨_, none⟩ | ⟨_, _, one⟩ | ⟨_, _, divides⟩
  · rw [none]
    exact Nat.zero_le _
  · rw [one]
    exact Nat.le_of_eq List.sum_singleton
  · exact divides.sum_le

/-- Every call asks for an item at least, and for no more than the largest batch. -/
theorem bounds_of_mem_split
    {count size : Nat}
    (member : size ∈ options.split count) :
    1 ≤ size ∧ (options.maxSize = 0 ∨ size ≤ options.maxSize) := by
  rcases options.split_cases count with
    ⟨_, none⟩ | ⟨enough, unlimited, one⟩ | ⟨_, _, divides⟩
  · rw [none] at member
    contradiction
  · rw [one] at member
    rw [List.mem_singleton.mp member]
    exact ⟨Nat.le_trans options.lowerLimit_pos enough, .inl unlimited⟩
  · have bounds := divides.bounds member
    exact ⟨bounds.1, .inr bounds.2⟩

/-- A request that is not divided is made by one call. -/
theorem length_split_le_one_of_unlimited
    (unlimited : options.maxSize = 0)
    (count : Nat) : (options.split count).length ≤ 1 := by
  rcases options.split_cases count with ⟨_, none⟩ | ⟨_, _, one⟩ | ⟨_, limited, _⟩
  · rw [none]
    exact Nat.zero_le 1
  · rw [one]
    exact Nat.le_refl 1
  · omega

/-- What is left after two whole batches is less than the smallest one. -/
example :
    ({ maxHandlers := 4, minSize := 3, maxSize := 5 } : BatchOptions).split 12 = [5, 5] := rfl

end BatchOptions
end PubSub
