import Mathlib
import PubSub.Binary64

/-!
# Rounding in binary floating point

The numbers of binary floating point, but for their largest exponent, are the points of a grid. An
operation whose exact result is not on the grid goes to a nearest point of it. This is all that is
used of an operation later: its result is on the side of every point on which the exact result is,
and it is off by at most half of the distance of two neighbours.

Lean's model of floating point rounds a significand with two more bits, the first one that was cut
off and whether any later one was set. `Represents` says of which quotient they are the digits, so
shifting them divides it, and rounding them rounds it.
-/

namespace PubSub
namespace Binary64

open Float.Model (Format UnpackedFloat totalExponent)
open Float.Model.UnpackedFloat (Accuracy ExtendedMantissa Sign accuracyOfFraction)

/-! ## Quotients -/

section Quotients

variable {numerator denominator bound : Nat}

/-- A rounded quotient is off by at most one half. -/
theorem roundDiv_spec (numerator : Nat) (some : 0 < denominator) :
    2 * numerator ≤ 2 * (roundDiv numerator denominator * denominator) + denominator ∧
      2 * (roundDiv numerator denominator * denominator) ≤ 2 * numerator + denominator := by
  have parts := Nat.div_add_mod' numerator denominator
  have rest := Nat.mod_lt numerator some
  have next : (numerator / denominator + 1) * denominator =
      numerator / denominator * denominator + denominator := Nat.succ_mul ..
  unfold roundDiv
  dsimp only
  split
  next below => omega
  next =>
    split
    next above => omega
    next =>
      rcases Nat.mod_two_eq_zero_or_one (numerator / denominator) with even | odd
      · rw [even, Nat.add_zero]
        omega
      · rw [odd]
        omega

theorem roundDiv_le
    (some : 0 < denominator)
    (below : 2 * numerator < (2 * bound + 1) * denominator) :
    roundDiv numerator denominator ≤ bound := by
  by_contra above
  have past : (bound + 1) * denominator ≤ roundDiv numerator denominator * denominator :=
    Nat.mul_le_mul_right _ (Nat.lt_of_not_le above)
  have near := (roundDiv_spec numerator some).2
  rw [Nat.add_mul, Nat.one_mul] at past
  rw [Nat.add_mul, Nat.one_mul, Nat.mul_assoc] at below
  omega

theorem le_roundDiv
    (some : 0 < denominator)
    (above : bound * denominator ≤ numerator) : bound ≤ roundDiv numerator denominator := by
  have floor : bound ≤ numerator / denominator := (Nat.le_div_iff_mul_le some).mpr above
  unfold roundDiv
  dsimp only
  split
  next => exact floor
  next => split <;> omega

/-- What is doubled is divided with one more binary digit. -/
theorem two_mul_div_and_mod (numerator : Nat) (some : 0 < denominator) :
    2 * numerator / denominator =
        2 * (numerator / denominator)
          + (if denominator ≤ 2 * (numerator % denominator) then 1 else 0) ∧
      2 * numerator % denominator =
        2 * (numerator % denominator)
          - (if denominator ≤ 2 * (numerator % denominator) then denominator else 0) := by
  have parts := Nat.div_add_mod' numerator denominator
  have rest := Nat.mod_lt numerator some
  rw [Nat.div_mod_unique some]
  split
  next half =>
    rw [Nat.mul_add, Nat.mul_left_comm, Nat.mul_comm denominator]
    omega
  next =>
    rw [Nat.mul_add, Nat.mul_left_comm, Nat.mul_comm denominator]
    omega

end Quotients

/-! ## Significands with two more bits -/

/-- The digits of a quotient, up to the first one that is cut off, and whether any later one is
set. -/
structure Represents (extended : ExtendedMantissa) (numerator denominator : Nat) : Prop where
  mantissa : extended.mantissa = numerator / denominator
  roundBit : extended.roundBit = decide (2 * numerator / denominator % 2 = 1)
  stickyBit : extended.stickyBit = decide (2 * numerator % denominator ≠ 0)

namespace Represents

variable {extended : ExtendedMantissa} {numerator denominator : Nat}

theorem shiftRightOne
    (represents : Represents extended numerator denominator)
    (some : 0 < denominator) :
    Represents extended.shiftRightOne numerator (denominator * 2) where
  mantissa := by
    rw [ExtendedMantissa.shiftRightOne, represents.mantissa, Nat.div_div_eq_div_mul]
  roundBit := by
    rw [ExtendedMantissa.shiftRightOne, represents.mantissa, Nat.mul_comm 2,
      Nat.mul_div_mul_right _ _ Nat.two_pos]
    rcases Nat.mod_two_eq_zero_or_one (numerator / denominator) with even | odd
    · simp [even]
    · simp [odd]
  stickyBit := by
    have rest := Nat.mod_lt numerator some
    obtain ⟨quotient, left⟩ := two_mul_div_and_mod numerator some
    rw [ExtendedMantissa.shiftRightOne, represents.roundBit, represents.stickyBit,
      Nat.mul_comm 2 numerator, Nat.mul_mod_mul_right, ← Bool.decide_or, decide_eq_decide,
      Nat.mul_comm numerator, quotient, left]
    split <;> omega

theorem shiftRight
    (represents : Represents extended numerator denominator)
    (some : 0 < denominator)
    (shift : Nat) : Represents (extended >>> shift) numerator (denominator * 2 ^ shift) := by
  induction shift with
  | zero =>
      rw [Nat.pow_zero, Nat.mul_one]
      exact represents
  | succ shift hypothesis =>
      rw [Nat.pow_succ, ← Nat.mul_assoc]
      exact hypothesis.shiftRightOne (Nat.mul_pos some (Nat.two_pow_pos shift))

theorem roundedMantissa_eq
    (represents : Represents extended numerator denominator)
    (some : 0 < denominator) : extended.roundedMantissa = roundDiv numerator denominator := by
  obtain ⟨quotient, left⟩ := two_mul_div_and_mod numerator some
  obtain ⟨mantissa, roundBit, stickyBit⟩ := represents
  rw [quotient] at roundBit
  rw [left] at stickyBit
  cases extended with
  | mk digits first later =>
      dsimp only at mantissa roundBit stickyBit
      subst mantissa roundBit stickyBit
      unfold ExtendedMantissa.roundedMantissa roundDiv
      rcases Nat.lt_trichotomy (2 * (numerator % denominator)) denominator with below | tie | above
      · have short : ¬denominator ≤ 2 * (numerator % denominator) := by omega
        by_cases whole : numerator % denominator = 0 <;>
          simp [below, short, whole, some, some.ne', ExtendedMantissa.accuracy,
            Accuracy.roundToNearestEven]
      · simp [tie, Nat.add_mod, ExtendedMantissa.accuracy, Accuracy.roundToNearestEven]
      · have long : denominator ≤ 2 * (numerator % denominator) := by omega
        have more : 2 * (numerator % denominator) - denominator ≠ 0 := by omega
        have least : ¬2 * (numerator % denominator) < denominator := by omega
        simp [above, long, more, least, Nat.add_mod, ExtendedMantissa.accuracy,
          Accuracy.roundToNearestEven]

theorem ofFraction (numerator : Nat) (some : 0 < denominator) :
    Represents
      (.ofMantissaAndAccuracy (numerator / denominator)
        (accuracyOfFraction (numerator % denominator) denominator))
      numerator denominator := by
  obtain ⟨quotient, left⟩ := two_mul_div_and_mod numerator some
  unfold accuracyOfFraction
  split
  next whole =>
    have short : ¬denominator ≤ 2 * 0 := by omega
    rw [whole, if_neg short] at quotient left
    exact ⟨rfl, by simp [ExtendedMantissa.ofMantissaAndAccuracy, quotient],
      by simp [ExtendedMantissa.ofMantissaAndAccuracy, left]⟩
  next part =>
    cases order : compare (2 * (numerator % denominator)) denominator with
    | lt =>
        have below := Nat.compare_eq_lt.mp order
        rw [if_neg (by omega)] at quotient left
        exact ⟨rfl, by simp [ExtendedMantissa.ofMantissaAndAccuracy, quotient],
          by simp [ExtendedMantissa.ofMantissaAndAccuracy, left, part]⟩
    | eq =>
        have tie := Nat.compare_eq_eq.mp order
        rw [if_pos tie.ge] at quotient left
        exact ⟨rfl, by simp [ExtendedMantissa.ofMantissaAndAccuracy, quotient, Nat.add_mod],
          by simp [ExtendedMantissa.ofMantissaAndAccuracy, left, tie]⟩
    | gt =>
        have above := Nat.compare_eq_gt.mp order
        rw [if_pos above.le] at quotient left
        exact ⟨rfl, by simp [ExtendedMantissa.ofMantissaAndAccuracy, quotient, Nat.add_mod],
          by simp [ExtendedMantissa.ofMantissaAndAccuracy, left]; omega⟩

theorem exact (mantissa : Nat) :
    Represents (.ofMantissaAndAccuracy mantissa .exact) mantissa 1 := by
  simpa [accuracyOfFraction, Nat.mod_one] using ofFraction mantissa Nat.one_pos

theorem eq_div
    {mantissa : Nat}
    {accuracy : Accuracy}
    (represents : Represents (.ofMantissaAndAccuracy mantissa accuracy) numerator denominator) :
    mantissa = numerator / denominator := by
  have same := represents.mantissa
  cases accuracy with
  | exact => exact same
  | inexact order => cases order <;> exact same

end Represents

/-! ## The grid -/

/-- The non-negative numbers of binary floating point, with no largest exponent. -/
def OnGrid (value : Rat) : Prop :=
  ∃ (significand : Nat) (exponent : Int),
    significand ≤ 2 ^ 53 ∧ -1074 ≤ exponent ∧ value = significand * 2 ^ exponent

/-- A number of the grid is nearest to an exact one. -/
structure IsNearest (exact rounded : Rat) : Prop where
  onGrid : OnGrid rounded
  least : ∀ other, OnGrid other → |rounded - exact| ≤ |other - exact|

namespace IsNearest

variable {exact rounded point : Rat}

theorem self (onGrid : OnGrid exact) : IsNearest exact exact :=
  ⟨onGrid, fun other _ => by rw [sub_self, abs_zero]; exact abs_nonneg _⟩

/-- What is below a point of the grid stays below it. -/
theorem le
    (nearest : IsNearest exact rounded)
    (onGrid : OnGrid point)
    (below : exact ≤ point) : rounded ≤ point := by
  by_contra above
  have closer := nearest.least point onGrid
  rw [abs_of_nonneg (by linarith), abs_of_nonneg (by linarith)] at closer
  linarith

/-- What is above a point of the grid stays above it. -/
theorem ge
    (nearest : IsNearest exact rounded)
    (onGrid : OnGrid point)
    (above : point ≤ exact) : point ≤ rounded := by
  by_contra below
  have closer := nearest.least point onGrid
  rw [abs_of_nonpos (by linarith), abs_of_nonpos (by linarith)] at closer
  linarith

/-- The neighbours of a number are no further away from each other than one step of its binade. -/
theorem abs_sub_le
    {exponent : Int}
    (nearest : IsNearest exact rounded)
    (least : -1074 ≤ exponent)
    (nonneg : 0 ≤ exact)
    (small : exact ≤ 2 ^ 53 * 2 ^ exponent) : |rounded - exact| ≤ 2 ^ exponent / 2 := by
  have step : (0 : Rat) < 2 ^ exponent := zpow_pos two_pos exponent
  have scaled : exact / 2 ^ exponent ≤ 2 ^ 53 := (div_le_iff₀ step).mpr small
  have some : 0 ≤ round (exact / 2 ^ exponent) := by
    rw [round_eq]
    exact Int.floor_nonneg.mpr (by positivity)
  obtain ⟨significand, same⟩ := Int.eq_ofNat_of_zero_le some
  have few : round (exact / 2 ^ exponent) < 2 ^ 53 + 1 := by
    rw [round_eq, Int.floor_lt]
    push_cast
    linarith
  have onGrid : OnGrid (significand * 2 ^ exponent) :=
    ⟨significand, exponent, by omega, least, rfl⟩
  have near := abs_sub_round (exact / 2 ^ exponent)
  rw [same, Int.cast_natCast] at near
  calc
    |rounded - exact| ≤ |significand * 2 ^ exponent - exact| := nearest.least _ onGrid
    _ = |exact / 2 ^ exponent - significand| * 2 ^ exponent := by
      rw [abs_sub_comm, ← abs_of_pos step, ← abs_mul, abs_of_pos step, sub_mul,
        div_mul_cancel₀ _ step.ne']
    _ ≤ 1 / 2 * 2 ^ exponent := mul_le_mul_of_nonneg_right near step.le
    _ = 2 ^ exponent / 2 := by ring

/-- A number that is not too small is off by at most one part in `2 ^ 53`. -/
theorem abs_sub_le_div
    (nearest : IsNearest exact rounded)
    (normal : (2 : Rat) ^ (-1022 : Int) ≤ exact) : |rounded - exact| ≤ exact / 2 ^ 53 := by
  have positive : 0 < exact := (zpow_pos two_pos _).trans_le normal
  obtain ⟨exponent, low, high⟩ := exists_mem_Ico_zpow positive one_lt_two
  have least : -1022 < exponent + 1 :=
    (zpow_lt_zpow_iff_right₀ one_lt_two).mp (normal.trans_lt high)
  have shifted : (2 : Rat) ^ exponent = 2 ^ 52 * 2 ^ (exponent - 52) := by
    rw [← zpow_natCast, ← zpow_add₀ two_ne_zero]
    congr 1
    omega
  have small : exact ≤ 2 ^ 53 * 2 ^ (exponent - 52) := by
    rw [zpow_add_one₀ two_ne_zero, shifted] at high
    linarith
  rw [shifted] at low
  refine (nearest.abs_sub_le (by omega) positive.le small).trans ?_
  rw [div_le_div_iff₀ two_pos (by positivity)]
  linarith

end IsNearest

/-! ## A rounded quotient is nearest -/

section Quotients

variable {numerator denominator : Nat}

theorem abs_roundDiv_sub_le_half (numerator : Nat) (some : 0 < denominator) :
    |(roundDiv numerator denominator : Rat) - numerator / denominator| ≤ 1 / 2 := by
  have positive : (0 : Rat) < denominator := Nat.cast_pos.mpr some
  obtain ⟨low, high⟩ := roundDiv_spec numerator some
  have below : (2 * numerator : Rat) ≤
      2 * (roundDiv numerator denominator * denominator) + denominator := by exact_mod_cast low
  have above : 2 * (roundDiv numerator denominator * denominator) ≤
      (2 * numerator + denominator : Rat) := by exact_mod_cast high
  rw [abs_le, neg_le_sub_iff_le_add, sub_le_comm, div_le_iff₀ positive, le_div_iff₀ positive]
  constructor <;> linarith

/-- No integer is closer. -/
theorem abs_roundDiv_sub_le (numerator : Nat) (some : 0 < denominator) (other : Nat) :
    |(roundDiv numerator denominator : Rat) - numerator / denominator| ≤
      |(other : Rat) - numerator / denominator| := by
  have near := abs_roundDiv_sub_le_half numerator some
  by_cases same : other = roundDiv numerator denominator
  · rw [same]
  · have apart : (1 : Rat) ≤ |(other : Rat) - roundDiv numerator denominator| := by
      have distance : 1 ≤ |(other : Int) - roundDiv numerator denominator| := by
        rw [← Int.zero_add 1, Int.add_one_le_iff, abs_pos, sub_ne_zero]
        exact_mod_cast same
      exact_mod_cast distance
    have triangle := abs_sub_le (other : Rat) (numerator / denominator)
      (roundDiv numerator denominator)
    rw [abs_sub_comm (numerator / denominator : Rat)] at triangle
    linarith

/-- A point of the grid with a smaller exponent is below all numbers of 53 digits. -/
theorem mul_zpow_le_of_lt
    {significand : Nat}
    {power exponent : Int}
    (small : significand ≤ 2 ^ 53)
    (fine : power < exponent) : (significand : Rat) * 2 ^ power ≤ 2 ^ 52 * 2 ^ exponent :=
  calc
    (significand : Rat) * 2 ^ power ≤ 2 ^ 53 * 2 ^ (exponent - 1) :=
      mul_le_mul (by exact_mod_cast small) (zpow_le_zpow_right₀ one_le_two (by omega))
        (zpow_nonneg zero_le_two _) (by positivity)
    _ = 2 ^ 52 * 2 ^ exponent := by
      rw [zpow_sub_one₀ two_ne_zero]
      ring

/-- Rounding a quotient of 53 binary digits, or as many as there are above the smallest exponent,
gives a nearest number. -/
theorem isNearest_roundDiv
    {exponent : Int}
    (some : 0 < denominator)
    (least : -1074 ≤ exponent)
    (full : exponent = -1074 ∨ 2 ^ 52 * denominator ≤ numerator)
    (short : numerator < 2 ^ 53 * denominator) :
    IsNearest (numerator / denominator * 2 ^ exponent)
      (roundDiv numerator denominator * 2 ^ exponent) := by
  have step : (0 : Rat) < 2 ^ exponent := zpow_pos two_pos exponent
  have scaled (point : Rat) :
      |point * 2 ^ exponent - numerator / denominator * 2 ^ exponent| =
        |point - numerator / denominator| * 2 ^ exponent := by
    rw [← sub_mul, abs_mul, abs_of_pos step]
  constructor
  case onGrid => exact ⟨_, exponent, roundDiv_le some (by omega), least, rfl⟩
  case least =>
    rintro other ⟨significand, power, small, high, rfl⟩
    rw [scaled]
    rcases le_or_gt exponent power with coarse | fine
    · obtain ⟨shift, rfl⟩ := Int.le.dest coarse
      have multiple : (significand : Rat) * 2 ^ (exponent + shift) =
          (significand * 2 ^ shift : Nat) * 2 ^ exponent := by
        rw [zpow_add₀ two_ne_zero, zpow_natCast]
        push_cast
        ring
      rw [multiple, scaled]
      exact mul_le_mul_of_nonneg_right (abs_roundDiv_sub_le numerator some _) step.le
    · -- The other point need not be a multiple of the step, but `2 ^ 52` steps are, and are closer.
      have large : (2 : Rat) ^ 52 ≤ numerator / denominator := by
        rw [le_div_iff₀ (Nat.cast_pos.mpr some)]
        exact_mod_cast full.resolve_left (by omega)
      have below := mul_zpow_le_of_lt small fine
      have above : (2 : Rat) ^ 52 * 2 ^ exponent ≤ numerator / denominator * 2 ^ exponent :=
        mul_le_mul_of_nonneg_right large step.le
      have near := abs_roundDiv_sub_le numerator some (2 ^ 52)
      rw [Nat.cast_pow, Nat.cast_ofNat, abs_sub_comm (2 ^ 52 : Rat),
        abs_of_nonneg (sub_nonneg.mpr large)] at near
      rw [abs_sub_comm (_ * _), abs_of_nonneg (sub_nonneg.mpr (below.trans above))]
      calc
        |(roundDiv numerator denominator : Rat) - numerator / denominator| * 2 ^ exponent ≤
            (numerator / denominator - 2 ^ 52) * 2 ^ exponent :=
          mul_le_mul_of_nonneg_right near step.le
        _ = numerator / denominator * 2 ^ exponent - 2 ^ 52 * 2 ^ exponent := sub_mul ..
        _ ≤ numerator / denominator * 2 ^ exponent - significand * 2 ^ power :=
          sub_le_sub_left below _

end Quotients

/-! ## Rounding in the model -/

/-- A significand and an exponent as binary floating point has them. -/
structure IsCanonical (significand : Nat) (exponent : Int) : Prop where
  short : significand < 2 ^ 53
  least : -1074 ≤ exponent
  full : exponent = -1074 ∨ 2 ^ 52 ≤ significand

/-- What a non-negative number of the model is worth. -/
inductive Denotes : UnpackedFloat → Rat → Prop
  | zero (sign : Sign) : Denotes (.zero sign) 0
  | finite {significand : Nat} {exponent : Int} (some : 0 < significand)
      (canonical : IsCanonical significand exponent) :
      Denotes (.finite .positive significand exponent some) (significand * 2 ^ exponent)

/-- A number of the model is an exact one that was rounded. -/
def Rounds (number : UnpackedFloat) (exact : Rat) : Prop :=
  ∃ rounded, Denotes number rounded ∧ IsNearest exact rounded

theorem Denotes.onGrid {number : UnpackedFloat} {value : Rat} (denotes : Denotes number value) :
    OnGrid value := by
  cases denotes with
  | zero sign => exact ⟨0, 0, by decide, by decide, by simp⟩
  | finite some canonical => exact ⟨_, _, canonical.short.le, canonical.least, rfl⟩

/-- The exponent of a number of the model has no more digits than it needs. -/
theorem targetExponent_binary64 (total : Int) :
    Format.binary64.targetExponent total = max (total - 53) (-1074) := rfl

/-- The digits of a number that is shifted to the exponent that it has in the format. -/
theorem represents_shiftToTargetExponent
    {mantissa numerator denominator : Nat}
    {accuracy : Accuracy}
    (some : 0 < denominator)
    (represents : Represents (.ofMantissaAndAccuracy mantissa accuracy) numerator denominator)
    (exponent : Int) :
    let shift := (Format.binary64.targetExponent (totalExponent mantissa exponent) - exponent).toNat
    let shifted := UnpackedFloat.shiftToTargetExponent .binary64 mantissa exponent accuracy
    Represents shifted.1 numerator (denominator * 2 ^ shift) ∧ shifted.2 = exponent + shift :=
  ⟨represents.shiftRight some _, rfl⟩

/-- Rounding up may take one digit more than there are, of which the last one is zero. -/
theorem isCanonical_shiftToTargetExponent
    {significand : Nat}
    {exponent : Int}
    (short : significand ≤ 2 ^ 53)
    (least : -1074 ≤ exponent)
    (full : exponent = -1074 ∨ 2 ^ 52 ≤ significand) :
    let shifted := UnpackedFloat.shiftToTargetExponent .binary64 significand exponent .exact
    IsCanonical shifted.1.mantissa shifted.2 ∧
      (shifted.1.mantissa : Rat) * 2 ^ shifted.2 = significand * 2 ^ exponent := by
  intro shifted
  obtain ⟨represents, moved⟩ :=
    represents_shiftToTargetExponent Nat.one_pos (.exact significand) exponent
  rw [targetExponent_binary64, totalExponent] at represents moved
  rcases short.lt_or_eq with fits | rfl
  · have digits : significand.log2 < 53 := by
      by_cases nothing : significand = 0
      · rw [nothing, Nat.log2_zero]
        decide
      · exact (Nat.log2_lt nothing).mpr fits
    have unmoved :
        (max ((significand.log2 : Int) + 1 + exponent - 53) (-1074) - exponent).toNat = 0 := by
      omega
    rw [unmoved] at represents moved
    have same : shifted.1.mantissa = significand := by simpa using represents.mantissa
    have there : shifted.2 = exponent := by simpa using moved
    rw [same, there]
    exact ⟨⟨fits, least, full⟩, rfl⟩
  · have once :
        (max (((2 ^ 53 : Nat).log2 : Int) + 1 + exponent - 53) (-1074) - exponent).toNat = 1 := by
      rw [Nat.log2_two_pow]
      omega
    rw [once] at represents moved
    have half : shifted.1.mantissa = 2 ^ 52 := represents.mantissa
    have next : shifted.2 = exponent + 1 := moved
    rw [half, next]
    refine ⟨⟨by decide, by omega, .inr (le_refl _)⟩, ?_⟩
    rw [zpow_add_one₀ two_ne_zero]
    push_cast
    ring

/-- A number that is shifted to its exponent has 53 binary digits, or as many as there are above the
smallest exponent. -/
theorem digits_of_shift
    {mantissa numerator denominator shift : Nat}
    {exponent : Int}
    (some : 0 < denominator)
    (floor : mantissa = numerator / denominator)
    (target : exponent + shift = max ((mantissa.log2 : Int) + 1 + exponent - 53) (-1074)) :
    (exponent + shift = -1074 ∨ 2 ^ 52 * (denominator * 2 ^ shift) ≤ numerator) ∧
      numerator < 2 ^ 53 * (denominator * 2 ^ shift) := by
  have scaled (digits : Nat) : 2 ^ digits * (denominator * 2 ^ shift) =
      2 ^ (digits + shift) * denominator := by
    rw [Nat.pow_add]
    ring
  constructor
  · rcases le_or_gt ((mantissa.log2 : Int) + 1 + exponent - 53) (-1074) with tiny | normal
    · exact .inl (by omega)
    · have digits : mantissa.log2 = 52 + shift := by omega
      have nonzero : mantissa ≠ 0 := by
        rintro rfl
        rw [Nat.log2_zero] at digits
        omega
      rw [scaled, ← Nat.le_div_iff_mul_le some, ← floor, ← digits]
      exact .inr (Nat.log2_self_le nonzero)
  · rw [scaled, ← Nat.div_lt_iff_lt_mul some, ← floor]
    exact Nat.lt_log2_self.trans_le (Nat.pow_le_pow_right Nat.two_pos (by omega))

/-- Rounding a number that has all digits that are needed. -/
theorem rounds_roundWithAccuracy
    {mantissa numerator denominator : Nat}
    {exponent : Int}
    {accuracy : Accuracy}
    (some : 0 < denominator)
    (represents : Represents (.ofMantissaAndAccuracy mantissa accuracy) numerator denominator)
    (long : exponent ≤ Format.binary64.targetExponent (totalExponent mantissa exponent)) :
    Rounds (UnpackedFloat.roundWithAccuracy .binary64 .positive mantissa exponent accuracy)
      (numerator / denominator * 2 ^ exponent) := by
  obtain ⟨shifted, moved⟩ := represents_shiftToTargetExponent some represents exponent
  obtain ⟨shift, target⟩ := Int.le.dest long
  rw [← target, add_sub_cancel_left, Int.toNat_natCast] at shifted moved
  rw [targetExponent_binary64, totalExponent] at target
  have scale : 0 < denominator * 2 ^ shift := Nat.mul_pos some (Nat.two_pow_pos shift)
  have least : -1074 ≤ exponent + shift := by omega
  obtain ⟨full, short⟩ := digits_of_shift some represents.eq_div target
  have nearest := isNearest_roundDiv scale least full short
  have value : (numerator / (denominator * 2 ^ shift : Nat) * 2 ^ (exponent + shift) : Rat) =
      numerator / denominator * 2 ^ exponent := by
    rw [zpow_add₀ two_ne_zero, zpow_natCast]
    push_cast
    field_simp
  rw [value] at nearest
  have rounded := isCanonical_shiftToTargetExponent (roundDiv_le scale (by omega)) least
    (full.imp_right fun enough => le_roundDiv scale enough)
  unfold UnpackedFloat.roundWithAccuracy
  generalize UnpackedFloat.shiftToTargetExponent .binary64 mantissa exponent accuracy = first
    at shifted moved ⊢
  obtain ⟨extended, position⟩ := first
  dsimp only at shifted moved ⊢
  rw [shifted.roundedMantissa_eq scale, moved]
  generalize UnpackedFloat.shiftToTargetExponent .binary64 _ _ _ = second at rounded ⊢
  obtain ⟨canonical, same⟩ := rounded
  rw [← same] at nearest
  split
  next nothing =>
    rw [nothing, Nat.cast_zero, zero_mul] at nearest
    exact ⟨0, .zero .positive, nearest⟩
  next => exact ⟨_, .finite _ canonical, nearest⟩

/-- More digits at the end make no difference to the position of the first one. -/
theorem totalExponent_shiftLeft
    {mantissa : Nat}
    (some : 0 < mantissa)
    (shift : Nat)
    (exponent : Int) :
    totalExponent (mantissa <<< shift) (exponent - shift) = totalExponent mantissa exponent := by
  have power : 0 < 2 ^ shift := Nat.two_pow_pos shift
  have digits : (mantissa <<< shift).log2 = mantissa.log2 + shift := by
    rw [Nat.shiftLeft_eq, Nat.log2_eq_iff (Nat.mul_pos some power).ne', Nat.add_right_comm,
      Nat.pow_add, Nat.pow_add _ (mantissa.log2 + 1)]
    exact ⟨Nat.mul_le_mul_right _ (Nat.log2_self_le some.ne'),
      Nat.mul_lt_mul_of_pos_right Nat.lt_log2_self power⟩
  unfold totalExponent
  omega

theorem rounds_round {mantissa : Nat} (some : 0 < mantissa) (exponent : Int) :
    Rounds (UnpackedFloat.round .binary64 .positive mantissa exponent)
      (mantissa * 2 ^ exponent) := by
  unfold UnpackedFloat.round UnpackedFloat.decreaseExponent
  dsimp only
  generalize spread :
    (exponent - Format.binary64.targetExponent (totalExponent mantissa exponent)).toNat = shift
  have long : exponent - shift ≤
      Format.binary64.targetExponent (totalExponent (mantissa <<< shift) (exponent - shift)) := by
    rw [totalExponent_shiftLeft some]
    omega
  have rounds := rounds_roundWithAccuracy Nat.one_pos (.exact (mantissa <<< shift)) long
  have value : (mantissa * 2 ^ exponent : Rat) =
      (mantissa <<< shift : Nat) / (1 : Nat) * 2 ^ (exponent - shift) := by
    rw [Nat.shiftLeft_eq, zpow_sub₀ two_ne_zero, zpow_natCast]
    push_cast
    field_simp
  rwa [value]

end Binary64
end PubSub
