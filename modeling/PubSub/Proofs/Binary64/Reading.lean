import PubSub.Proofs.Binary64.Rounding

/-!
# What numbers of binary floating point are worth

A number that is finite and not negative is worth its significand times a power of two. `Reads`
says what a number is worth, in terms of Lean's model of floating point, and it is worth what
`magnitude` makes of its bits.

The words of a machine, sums and quotients are rounded to a nearest number, and numbers are
compared as what they are worth. Converting a number of seconds to nanoseconds rounds what it is
worth.
-/

namespace PubSub
namespace Binary64

open Float.Model (Format UnpackedFloat totalExponent)
open Float.Model.UnpackedFloat (Sign unpackExponent unpackMantissa unpackSign)

/-! ## Operations of the model -/

section Operations

variable {left right : UnpackedFloat} {first second : Rat}

theorem rounds_normalize {mantissa : Nat} (some : 0 < mantissa) (exponent : Int) (zero : Sign) :
    Rounds (UnpackedFloat.normalize .binary64 mantissa exponent zero)
      (mantissa * 2 ^ exponent) := by
  have positive : compare (mantissa : Int) 0 = .gt := Int.compare_eq_gt.mpr (by omega)
  rw [UnpackedFloat.normalize, positive]
  exact rounds_round some exponent

theorem rounds_self {number : UnpackedFloat} {value : Rat} (denotes : Denotes number value) :
    Rounds number value :=
  ⟨value, denotes, .self denotes.onGrid⟩

theorem rounds_ofNat (count : Nat) : Rounds (UnpackedFloat.ofNat .binary64 count) count := by
  rcases Nat.eq_zero_or_pos count with rfl | some
  · exact rounds_self (.zero .positive)
  · simpa [UnpackedFloat.ofNat, UnpackedFloat.ofInt] using rounds_normalize some 0 .positive

/-- Digits at the end make no difference. -/
theorem cast_decreaseExponent (mantissa : Nat) (exponent least : Int) (above : least ≤ exponent) :
    ((UnpackedFloat.decreaseExponent mantissa exponent least).1 : Rat) * 2 ^ least =
      mantissa * 2 ^ exponent := by
  obtain ⟨shift, rfl⟩ := Int.le.dest above
  rw [UnpackedFloat.decreaseExponent, add_sub_cancel_left, Int.toNat_natCast, Nat.shiftLeft_eq,
    zpow_add₀ two_ne_zero, zpow_natCast]
  push_cast
  ring

theorem decreaseExponent_pos
    {mantissa : Nat}
    (some : 0 < mantissa)
    (exponent least : Int) : 0 < (UnpackedFloat.decreaseExponent mantissa exponent least).1 := by
  rw [UnpackedFloat.decreaseExponent, Nat.shiftLeft_eq]
  exact Nat.mul_pos some (Nat.two_pow_pos _)

theorem rounds_add (denotesLeft : Denotes left first) (denotesRight : Denotes right second) :
    Rounds (UnpackedFloat.add .binary64 left right) (first + second) := by
  cases denotesLeft with
  | zero leftSign =>
      rw [zero_add]
      cases denotesRight with
      | zero rightSign =>
          unfold UnpackedFloat.add
          dsimp only
          split <;> exact rounds_self (.zero _)
      | finite some canonical => exact rounds_self (.finite some canonical)
  | @finite leftMantissa leftExponent leftSome leftCanonical =>
      cases denotesRight with
      | zero rightSign =>
          rw [add_zero]
          exact rounds_self (.finite leftSome leftCanonical)
      | @finite rightMantissa rightExponent rightSome rightCanonical =>
          have leftSame := cast_decreaseExponent leftMantissa leftExponent
            (min leftExponent rightExponent) (min_le_left ..)
          have rightSame := cast_decreaseExponent rightMantissa rightExponent
            (min leftExponent rightExponent) (min_le_right ..)
          have some := Nat.add_pos_left
            (decreaseExponent_pos leftSome leftExponent (min leftExponent rightExponent))
            (UnpackedFloat.decreaseExponent rightMantissa rightExponent
              (min leftExponent rightExponent)).1
          have rounds := rounds_normalize some (min leftExponent rightExponent) .positive
          rw [Nat.cast_add, Nat.cast_add, add_mul, leftSame, rightSame] at rounds
          exact rounds

/-- A quotient has as many digits as are needed. -/
theorem long_divCore
    {dividend divisor : Nat}
    (some : 0 < dividend)
    (positive : 0 < divisor)
    (leftExponent rightExponent : Int) :
    let core := UnpackedFloat.divCore .binary64 dividend leftExponent divisor rightExponent
    core.2.1 ≤ Format.binary64.targetExponent (totalExponent core.1 core.2.1) := by
  intro core
  have exponent : core.2.1 = min (leftExponent - rightExponent)
      (max (totalExponent dividend leftExponent - totalExponent divisor rightExponent - 53)
        (-1074)) := rfl
  have quotient : core.1 =
      (dividend <<< (leftExponent - rightExponent - core.2.1).toNat) / divisor := rfl
  rw [targetExponent_binary64, totalExponent]
  rw [totalExponent, totalExponent] at exponent
  rcases le_or_gt core.2.1 (-1074) with tiny | normal
  · omega
  · have digits : divisor.log2 + 53 ≤
        dividend.log2 + (leftExponent - rightExponent - core.2.1).toNat := by omega
    have large : 2 ^ 52 ≤ core.1 := by
      rw [quotient, Nat.le_div_iff_mul_le positive, Nat.shiftLeft_eq]
      calc
        2 ^ 52 * divisor ≤ 2 ^ 52 * 2 ^ (divisor.log2 + 1) :=
          Nat.mul_le_mul_left _ Nat.lt_log2_self.le
        _ = 2 ^ (divisor.log2 + 53) := by rw [← Nat.pow_add]; congr 1; omega
        _ ≤ 2 ^ (dividend.log2 + (leftExponent - rightExponent - core.2.1).toNat) :=
          Nat.pow_le_pow_right Nat.two_pos digits
        _ = 2 ^ dividend.log2 * 2 ^ (leftExponent - rightExponent - core.2.1).toNat :=
          Nat.pow_add ..
        _ ≤ dividend * 2 ^ (leftExponent - rightExponent - core.2.1).toNat :=
          Nat.mul_le_mul_right _ (Nat.log2_self_le some.ne')
    have places : 52 ≤ core.1.log2 :=
      (Nat.le_log2 (Nat.ne_zero_of_lt ((Nat.two_pow_pos 52).trans_le large))).mpr large
    omega

theorem cast_shiftLeft_div
    {divisor : Nat}
    {leftExponent rightExponent exponent : Int}
    (dividend : Nat)
    (some : 0 < divisor)
    (above : exponent ≤ leftExponent - rightExponent) :
    ((dividend <<< (leftExponent - rightExponent - exponent).toNat : Nat) : Rat) / divisor
        * 2 ^ exponent =
      dividend * 2 ^ leftExponent / (divisor * 2 ^ rightExponent) := by
  obtain ⟨shift, same⟩ := Int.le.dest above
  obtain rfl : leftExponent = exponent + shift + rightExponent := by omega
  have nonzero : (divisor : Rat) ≠ 0 := Nat.cast_ne_zero.mpr some.ne'
  rw [add_sub_cancel_right, add_sub_cancel_left, Int.toNat_natCast, Nat.shiftLeft_eq,
    zpow_add₀ two_ne_zero, zpow_add₀ two_ne_zero, zpow_natCast]
  push_cast
  field_simp

theorem rounds_div
    (denotesLeft : Denotes left first)
    (denotesRight : Denotes right second)
    (positive : 0 < second) : Rounds (UnpackedFloat.div .binary64 left right) (first / second) := by
  cases denotesRight with
  | zero rightSign => exact absurd positive (lt_irrefl 0)
  | @finite divisor rightExponent some rightCanonical =>
      cases denotesLeft with
      | zero leftSign =>
          rw [zero_div]
          exact rounds_self (.zero _)
      | @finite dividend leftExponent leftSome leftCanonical =>
          have long := long_divCore leftSome some leftExponent rightExponent
          have value := cast_shiftLeft_div dividend some (min_le_left (leftExponent - rightExponent)
            (Format.binary64.targetExponent
              (totalExponent dividend leftExponent - totalExponent divisor rightExponent)))
          rw [← value]
          exact rounds_roundWithAccuracy some (.ofFraction _ some) long

end Operations

/-! ## Bits -/

theorem toNat_unpackMantissa (bits : BitVec Format.binary64.numBits) :
    (unpackMantissa bits).toNat = bits.toNat % impliedBit := by
  simp [unpackMantissa, BitVec.extractLsb_toNat, impliedBit]

theorem toNat_unpackExponent (bits : BitVec Format.binary64.numBits) :
    (unpackExponent bits).toNat = bits.toNat / impliedBit % 2048 := by
  simp [unpackExponent, BitVec.extractLsb_toNat, impliedBit, Nat.shiftRight_eq_div_pow]

section Unpacking

variable {bits : BitVec Format.binary64.numBits}

theorem unpack_of_zero
    (exponent : (unpackExponent bits).toNat = 0)
    (mantissa : (unpackMantissa bits).toNat = 0) :
    UnpackedFloat.unpack .binary64 bits = .zero (.ofBitVec (unpackSign bits)) := by
  have noExponent : unpackExponent bits = 0#_ := BitVec.eq_of_toNat_eq exponent
  have noMantissa : unpackMantissa bits = 0#_ := BitVec.eq_of_toNat_eq mantissa
  simp [UnpackedFloat.unpack, noExponent, noMantissa]

/-- The smallest numbers have no leading bit of their own. -/
theorem unpack_of_subnormal
    (exponent : (unpackExponent bits).toNat = 0)
    (mantissa : 0 < (unpackMantissa bits).toNat) :
    UnpackedFloat.unpack .binary64 bits =
      .finite (.ofBitVec (unpackSign bits)) (unpackMantissa bits).toNat (-1074) mantissa := by
  have none : unpackExponent bits = 0#_ := BitVec.eq_of_toNat_eq exponent
  have finite : unpackExponent bits ≠ -1#_ := by
    rw [none]
    decide
  have some : unpackMantissa bits ≠ 0#_ := fun zero => by simp [zero] at mantissa
  unfold UnpackedFloat.unpack
  dsimp only
  rw [if_neg finite, if_pos none, dif_neg some]
  simp [exponent, Format.exponentBias]

theorem unpack_of_normal
    (some : 0 < (unpackExponent bits).toNat)
    (finite : (unpackExponent bits).toNat < 2047) :
    UnpackedFloat.unpack .binary64 bits =
      .finite (.ofBitVec (unpackSign bits)) (impliedBit + (unpackMantissa bits).toNat)
        ((unpackExponent bits).toNat - 1075) (Nat.add_pos_left (by decide) _) := by
  have nonzero : unpackExponent bits ≠ 0#_ := fun zero => by simp [zero] at some
  have notLargest : unpackExponent bits ≠ -1#_ := fun largest => by simp [largest] at finite
  have leading : (1#1 ++ unpackMantissa bits).toNat = impliedBit + (unpackMantissa bits).toNat := by
    rw [BitVec.toNat_append, ← Nat.shiftLeft_add_eq_or_of_lt (unpackMantissa bits).isLt]
    rfl
  unfold UnpackedFloat.unpack
  dsimp only
  rw [if_neg notLargest, if_neg nonzero]
  simp [leading, Format.exponentBias]

theorem unpack_of_largest (exponent : (unpackExponent bits).toNat = 2047) :
    (UnpackedFloat.unpack .binary64 bits).isInf = true ∨
      (UnpackedFloat.unpack .binary64 bits).isNaN = true := by
  have largest : unpackExponent bits = -1#_ := BitVec.eq_of_toNat_eq exponent
  unfold UnpackedFloat.unpack
  dsimp only
  rw [if_pos largest]
  split
  next => exact .inl rfl
  next => exact .inr rfl

end Unpacking

/-- The exponent of a number that is not too large is not the largest one. -/
theorem exponent_le_of_lt
    {significand : Nat}
    {exponent : Int}
    (canonical : IsCanonical significand exponent)
    (small : (significand * 2 ^ exponent : Rat) < 2 ^ (1024 : Int)) : exponent ≤ 971 := by
  by_contra large
  have full : (2 : Rat) ^ 52 ≤ significand := by
    exact_mod_cast canonical.full.resolve_left (by omega)
  refine absurd small (not_lt.mpr ?_)
  calc
    (2 : Rat) ^ (1024 : Int) ≤ 2 ^ ((52 : Nat) + exponent) :=
      zpow_le_zpow_right₀ one_le_two (by omega)
    _ = 2 ^ 52 * 2 ^ exponent := by rw [zpow_add₀ two_ne_zero, zpow_natCast]
    _ ≤ significand * 2 ^ exponent := mul_le_mul_of_nonneg_right full (by positivity)

/-- A number that is not too large is kept when it is packed. -/
theorem unpack_pack
    {number : UnpackedFloat}
    {value : Rat}
    (denotes : Denotes number value)
    (small : value < 2 ^ (1024 : Int)) :
    UnpackedFloat.unpack .binary64 (UnpackedFloat.pack .binary64 number) = number := by
  cases denotes with
  | zero sign => cases sign <;> rfl
  | @finite significand exponent some canonical =>
      have most := exponent_le_of_lt canonical small
      obtain ⟨short, least, full⟩ := canonical
      obtain ⟨biased, same⟩ := Int.eq_ofNat_of_zero_le (show 0 ≤ exponent + 1075 by omega)
      have field : (exponent + Format.binary64.exponentBias
          + Format.binary64.mantissaBitsWithoutImplicit).toNat = biased := by
        show (exponent + 1023 + 52).toNat = biased
        omega
      unfold UnpackedFloat.pack
      dsimp only
      rw [field, if_neg (by show ¬2 ^ 11 ≤ biased + 1; omega)]
      by_cases normal : 2 ^ 52 ≤ significand
      · have digits : significand.log2 + 1 = Format.binary64.mantissaBits := by
          rw [(Nat.log2_eq_iff some.ne').mpr ⟨normal, short⟩]
          rfl
        have leading : impliedBit + significand % 2 ^ 52 = significand := by
          show 2 ^ 52 + _ = _
          omega
        have kept : biased % 2 ^ 11 = biased := Nat.mod_eq_of_lt (by omega)
        rw [if_pos digits, unpack_of_normal] <;>
          simp only [UnpackedFloat.unpackExponent_packComponents, BitVec.toNat_ofNat, kept]
        case some => omega
        case finite => omega
        simp only [UnpackedFloat.unpackMantissa_packComponents, BitVec.toNat_ofNat,
          UnpackedFloat.unpackSign_packComponents, Sign.ofBitVec_toBitVec, leading,
          UnpackedFloat.finite.injEq, true_and]
        omega
      · have digits : significand.log2 + 1 ≠ Format.binary64.mantissaBits := by
          have fewer : significand.log2 < 52 := (Nat.log2_lt some.ne').mpr (not_le.mp normal)
          show _ ≠ 53
          omega
        have kept : significand % 2 ^ 52 = significand := Nat.mod_eq_of_lt (not_le.mp normal)
        rw [if_neg digits, unpack_of_subnormal] <;>
          simp only [UnpackedFloat.unpackMantissa_packComponents, BitVec.toNat_ofNat, kept]
        case exponent => rw [UnpackedFloat.unpackExponent_packComponents]; rfl
        case mantissa => exact some
        simp only [UnpackedFloat.unpackSign_packComponents, Sign.ofBitVec_toBitVec,
          UnpackedFloat.finite.injEq, true_and]
        exact (full.resolve_right normal).symm

/-! ## What numbers are worth -/

/-- A number that is finite and not negative is worth this. -/
def Reads (value : Float) (worth : Rat) : Prop := Denotes value.toModel.unpack worth

theorem lt_iff (left right : Float) :
    left < right ↔ left.toModel.unpack.lt right.toModel.unpack = true :=
  decide_eq_true_iff

def bitsOf (value : Float) : BitVec Format.binary64.numBits := value.toModel.toBits.toBitVec

theorem magnitude_eq (value : Float) :
    magnitude value =
      if (unpackExponent (bitsOf value)).toNat = 0 then
        ((unpackMantissa (bitsOf value)).toNat, -1074)
      else
        (impliedBit + (unpackMantissa (bitsOf value)).toNat,
          ((unpackExponent (bitsOf value)).toNat : Int) - 1075) := by
  rw [toNat_unpackExponent, toNat_unpackMantissa]
  rfl

theorem reads_magnitude
    {value : Float}
    (number : value.isNaN = false)
    (finite : value.isInf = false)
    (nonneg : ¬value < 0.0) : Reads value ((magnitude value).1 * 2 ^ (magnitude value).2) := by
  have positive {sign : Sign} {significand : Nat} {exponent : Int} {some : 0 < significand}
      (unpacked : UnpackedFloat.unpack .binary64 (bitsOf value) =
        .finite sign significand exponent some) : sign = .positive := by
    cases sign with
    | positive => rfl
    | negative =>
        refine absurd ((lt_iff value 0.0).mpr ?_) nonneg
        rw [show value.toModel.unpack = _ from unpacked]
        rfl
  show Denotes (UnpackedFloat.unpack .binary64 (bitsOf value)) _
  have digits := (unpackMantissa (bitsOf value)).isLt
  have fields := (unpackExponent (bitsOf value)).isLt
  rw [magnitude_eq]
  split
  next zero =>
    rcases Nat.eq_zero_or_pos (unpackMantissa (bitsOf value)).toNat with none | some
    · rw [unpack_of_zero zero none, none, Nat.cast_zero, zero_mul]
      exact .zero _
    · have unpacked := unpack_of_subnormal zero some
      rw [unpacked, positive unpacked]
      exact .finite some ⟨digits.trans (by decide), le_refl _, .inl rfl⟩
  next nonzero =>
    rcases Nat.lt_or_ge (unpackExponent (bitsOf value)).toNat 2047 with small | large
    · have unpacked := unpack_of_normal (Nat.pos_of_ne_zero nonzero) small
      rw [unpacked, positive unpacked]
      have implied : impliedBit = 2 ^ 52 := rfl
      have short : (unpackMantissa (bitsOf value)).toNat < 2 ^ 52 := digits
      exact .finite _ ⟨by omega, by omega, .inr (by omega)⟩
    · have field : (unpackExponent (bitsOf value)).toNat < 2048 := fields
      have notANumber : (UnpackedFloat.unpack .binary64 (bitsOf value)).isNaN = false := number
      have infinite : (UnpackedFloat.unpack .binary64 (bitsOf value)).isInf = false := finite
      have largest : (unpackExponent (bitsOf value)).toNat = 2047 := by omega
      rcases unpack_of_largest largest with unpacked | unpacked
      · rw [infinite] at unpacked
        contradiction
      · rw [notANumber] at unpacked
        contradiction

/-- The number with the larger exponent is larger, because it has all digits. -/
theorem lt_of_exponent_lt
    {leftMantissa rightMantissa : Nat}
    {leftExponent rightExponent : Int}
    (left : IsCanonical leftMantissa leftExponent)
    (right : IsCanonical rightMantissa rightExponent)
    (less : leftExponent < rightExponent) :
    (leftMantissa * 2 ^ leftExponent : Rat) < rightMantissa * 2 ^ rightExponent := by
  have least := left.least
  have short : (leftMantissa : Rat) < 2 ^ 53 := by exact_mod_cast left.short
  have full : (2 : Rat) ^ 52 ≤ rightMantissa := by
    exact_mod_cast right.full.resolve_left (by omega)
  calc
    (leftMantissa * 2 ^ leftExponent : Rat) < 2 ^ 53 * 2 ^ leftExponent :=
      mul_lt_mul_of_pos_right short (zpow_pos two_pos _)
    _ = 2 ^ 52 * 2 ^ (leftExponent + 1) := by
      rw [zpow_add_one₀ two_ne_zero]
      ring
    _ ≤ rightMantissa * 2 ^ rightExponent :=
      mul_le_mul full (zpow_le_zpow_right₀ one_le_two less) (by positivity) (by positivity)

namespace Denotes

variable {number left right : UnpackedFloat} {worth first second : Rat}

/-- A number has one worth. -/
theorem unique (one : Denotes number first) (other : Denotes number second) : first = second := by
  cases one with
  | zero sign =>
      cases other
      rfl
  | finite some canonical =>
      cases other
      rfl

theorem nonneg (denotes : Denotes number worth) : 0 ≤ worth := by
  cases denotes with
  | zero sign => exact le_refl 0
  | finite some canonical => positivity

theorem isNaN (denotes : Denotes number worth) : number.isNaN = false := by
  cases denotes <;> rfl

theorem isInf (denotes : Denotes number worth) : number.isInf = false := by
  cases denotes <;> rfl

theorem lt_zero (denotes : Denotes number worth) : number.lt (.zero .positive) = false := by
  cases denotes <;> rfl

/-- Numbers are compared as what they are worth. -/
theorem lt_of_lt
    (denotesLeft : Denotes left first)
    (denotesRight : Denotes right second)
    (less : first < second) : left.lt right = true := by
  cases denotesRight with
  | zero sign => exact absurd denotesLeft.nonneg (not_le.mpr less)
  | @finite rightMantissa rightExponent rightSome rightCanonical =>
      cases denotesLeft with
      | zero sign => rfl
      | @finite leftMantissa leftExponent leftSome leftCanonical =>
          have order : (compare leftExponent rightExponent).then
              (compare leftMantissa rightMantissa) = .lt := by
            rcases lt_trichotomy leftExponent rightExponent with lower | rfl | higher
            · rw [Int.compare_eq_lt.mpr lower, Ordering.lt_then]
            · have fewer : leftMantissa < rightMantissa := by
                exact_mod_cast lt_of_mul_lt_mul_right less (zpow_nonneg zero_le_two _)
              rw [Int.compare_eq_eq.mpr rfl, Ordering.eq_then, Nat.compare_eq_lt.mpr fewer]
            · exact absurd less (lt_of_exponent_lt rightCanonical leftCanonical higher).not_gt
          rw [UnpackedFloat.lt, UnpackedFloat.compare, order]
          rfl

end Denotes

section Reading

variable {value left right : Float} {worth first second : Rat}

/-- A number is worth what its bits say. -/
theorem Reads.eq_magnitude (reads : Reads value worth) :
    worth = (magnitude value).1 * 2 ^ (magnitude value).2 := by
  have nonneg : ¬value < 0.0 := by
    rw [lt_iff, Bool.not_eq_true]
    exact Denotes.lt_zero reads
  exact Denotes.unique reads (reads_magnitude (Denotes.isNaN reads) (Denotes.isInf reads) nonneg)

theorem Reads.le
    (readsLeft : Reads left first)
    (readsRight : Reads right second)
    (notLess : ¬right < left) : first ≤ second := by
  by_contra above
  exact notLess ((lt_iff right left).mpr (Denotes.lt_of_lt readsRight readsLeft (not_le.mp above)))

/-! ## Conversions and operations -/

/-- An operation goes to a nearest number, if there is one in range. -/
theorem exists_reads_pack
    {number : UnpackedFloat}
    {exact : Rat}
    (rounds : Rounds number exact)
    (small : exact ≤ 2 ^ (1023 : Int)) :
    ∃ worth, Reads (.ofModel (.pack number)) worth ∧ IsNearest exact worth := by
  obtain ⟨worth, denotes, nearest⟩ := rounds
  have onGrid : OnGrid (2 ^ (1023 : Int)) := ⟨1, 1023, by decide, by decide, by simp⟩
  have bounded : worth < 2 ^ (1024 : Int) :=
    (nearest.le onGrid small).trans_lt (zpow_lt_zpow_right₀ one_lt_two (by decide))
  refine ⟨worth, ?_, nearest⟩
  show Denotes (UnpackedFloat.unpack .binary64 (UnpackedFloat.pack .binary64 number)) worth
  rwa [unpack_pack denotes bounded]

theorem exists_reads_ofWord {word : Nat} (fits : word ≤ maxWord) :
    ∃ worth, Reads (ofWord word) worth ∧ IsNearest word worth := by
  have short : word < 2 ^ 64 := Nat.lt_succ_of_le fits
  have small : (word : Rat) ≤ 2 ^ (1023 : Int) :=
    calc
      (word : Rat) ≤ 2 ^ 64 := by exact_mod_cast short.le
      _ = 2 ^ (64 : Int) := by rw [zpow_ofNat]
      _ ≤ 2 ^ (1023 : Int) := zpow_le_zpow_right₀ one_le_two (by decide)
  have rounds := rounds_ofNat (UInt64.ofNat word).toNat
  rw [UInt64.toNat_ofNat_of_lt' short] at rounds
  have packed : ofWord word = .ofModel (.pack (UnpackedFloat.ofNat .binary64 word)) := by
    show Float.ofModel (.pack (UnpackedFloat.ofNat .binary64 (UInt64.ofNat word).toNat)) = _
    rw [UInt64.toNat_ofNat_of_lt' short]
  rw [packed]
  exact exists_reads_pack rounds small

theorem exists_reads_add
    (readsLeft : Reads left first)
    (readsRight : Reads right second)
    (small : first + second ≤ 2 ^ (1023 : Int)) :
    ∃ worth, Reads (left + right) worth ∧ IsNearest (first + second) worth :=
  exists_reads_pack (rounds_add readsLeft readsRight) small

theorem exists_reads_div
    (readsLeft : Reads left first)
    (readsRight : Reads right second)
    (positive : 0 < second)
    (small : first / second ≤ 2 ^ (1023 : Int)) :
    ∃ worth, Reads (left / right) worth ∧ IsNearest (first / second) worth :=
  exists_reads_pack (rounds_div readsLeft readsRight positive) small

/-- Rounding what a number is worth on a finer scale. -/
theorem scaledRound_le
    {scale bound : Nat}
    (reads : Reads value worth)
    (below : worth * scale < bound + 1 / 2) : scaledRound value scale ≤ bound := by
  have same := reads.eq_magnitude
  unfold scaledRound
  generalize magnitude value = parts at same ⊢
  obtain ⟨significand, exponent⟩ := parts
  dsimp only at same ⊢
  rw [same] at below
  split
  next whole =>
    obtain ⟨shift, rfl⟩ := Int.eq_ofNat_of_zero_le whole
    rw [zpow_natCast] at below
    rw [Int.toNat_natCast, Nat.shiftLeft_eq]
    have less : ((significand * scale * 2 ^ shift : Nat) : Rat) < (bound + 1 : Nat) := by
      push_cast
      linarith
    exact Nat.lt_succ_iff.mp (Nat.cast_lt.mp less)
  next part =>
    obtain ⟨shift, rfl⟩ : ∃ shift : Nat, exponent = -shift := ⟨exponent.natAbs, by omega⟩
    rw [neg_neg, Int.toNat_natCast, Nat.one_shiftLeft]
    refine roundDiv_le (Nat.two_pow_pos shift) ?_
    have power : (0 : Rat) < 2 ^ shift := by positivity
    rw [zpow_neg, zpow_natCast, ← div_eq_mul_inv, div_mul_eq_mul_div, div_lt_iff₀ power] at below
    have less :
        ((2 * (significand * scale) : Nat) : Rat) < ((2 * bound + 1) * 2 ^ shift : Nat) := by
      push_cast
      linarith
    exact Nat.cast_lt.mp less

end Reading

end Binary64
end PubSub
