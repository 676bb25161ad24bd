import PubSub.Proofs.Binary64.Reading

/-!
# Spans as numbers of seconds

A span is read as a number of seconds with three roundings, of its whole seconds, of the quotient of
its other nanoseconds and of their sum. What is lost depends on how long the span is. Up to `2 ^ 23`
seconds it is less than half of a nanosecond, so that a number of seconds that is not larger gives
back no longer span. Longer spans are off by at most one part in `2 ^ 52`, and those of almost
`2 ^ 64` seconds are read as a number that is too large for a span.
-/

namespace PubSub

namespace Binary64

variable {exact rounded : Rat}

theorem onGrid_natCast {count : Nat} (small : count ≤ 2 ^ 53) : OnGrid count :=
  ⟨count, 0, small, by decide, by simp⟩

theorem onGrid_zero : OnGrid 0 := ⟨0, 0, by decide, by decide, by simp⟩

theorem onGrid_one : OnGrid 1 := ⟨1, 0, by decide, by decide, by simp⟩

theorem IsNearest.eq_of_onGrid (nearest : IsNearest exact rounded) (onGrid : OnGrid exact) :
    rounded = exact :=
  le_antisymm (nearest.le onGrid (le_refl exact)) (nearest.ge onGrid (le_refl exact))

theorem reads_billion : Reads 1e9 1000000000 := by
  have unpacked : (1e9 : Float).toModel.unpack =
      .finite .positive 8388608000000000 (-23) (by decide) := by rfl
  have worth : (1000000000 : Rat) = (8388608000000000 : Nat) * 2 ^ (-23 : Int) := by norm_num
  rw [Reads, unpacked, worth]
  exact .finite _ ⟨by decide, by decide, .inr (by decide)⟩

/-- The number before `2 ^ 64` is 2048 smaller, so what is not closer to `2 ^ 64` does not come to
it. -/
theorem IsNearest.le_of_lt
    (nearest : IsNearest exact rounded)
    (below : exact < 2 ^ 64 - 1024) : rounded ≤ 2 ^ 64 - 2048 := by
  have before : OnGrid (2 ^ 64 - 2048) := ⟨2 ^ 53 - 1, 11, by decide, by decide, by norm_num⟩
  rcases le_or_gt exact (2 ^ 64 - 2048) with within | beyond
  · exact nearest.le before within
  · have closer := nearest.least _ before
    rw [abs_sub_comm _ exact, abs_sub_comm _ exact, abs_of_pos (sub_pos.mpr beyond)] at closer
    have less : rounded < 2 ^ 64 := by
      have above := (abs_le.mp closer).1
      linarith
    obtain ⟨significand, exponent, small, least, rfl⟩ := nearest.onGrid
    rcases le_or_gt 11 exponent with coarse | fine
    · -- Multiples of 2048.
      obtain ⟨shift, rfl⟩ := Int.le.dest coarse
      have multiple : (significand * 2 ^ (11 + (shift : Int)) : Rat) =
          (significand * 2 ^ shift * 2048 : Nat) := by
        rw [zpow_add₀ two_ne_zero, zpow_natCast, zpow_ofNat]
        push_cast
        ring
      rw [multiple] at less ⊢
      have fewer : significand * 2 ^ shift * 2048 < 2 ^ 64 := by exact_mod_cast less
      have bound : significand * 2 ^ shift * 2048 + 2048 ≤ 2 ^ 64 := by omega
      exact le_sub_iff_add_le.mpr (by exact_mod_cast bound)
    · calc
        (significand * 2 ^ exponent : Rat) ≤ 2 ^ 53 * 2 ^ (10 : Int) :=
          mul_le_mul (by exact_mod_cast small) (zpow_le_zpow_right₀ one_le_two (by omega))
            (by positivity) (by positivity)
        _ ≤ 2 ^ 64 - 2048 := by norm_num

/-- Zero, or what is so far from it that rounding is relative. -/
def IsLarge (value : Rat) : Prop := value = 0 ∨ 2 ^ (-30 : Int) ≤ value

theorem IsLarge.add {left right : Rat} (first : IsLarge left) (second : IsLarge right) :
    IsLarge (left + right) := by
  have positive : (0 : Rat) < 2 ^ (-30 : Int) := zpow_pos two_pos _
  unfold IsLarge at *
  rcases first with rfl | first
  · rwa [zero_add]
  · rcases second with rfl | second
    · rw [add_zero]
      exact .inr first
    · exact .inr (by linarith)

theorem IsNearest.isLarge (nearest : IsNearest exact rounded) (large : IsLarge exact) :
    IsLarge rounded := by
  rcases large with rfl | large
  · exact .inl (nearest.eq_of_onGrid onGrid_zero)
  · exact .inr (nearest.ge ⟨1, -30, by decide, by decide, by simp⟩ large)

theorem IsNearest.le_mul (nearest : IsNearest exact rounded) (large : IsLarge exact) :
    rounded ≤ exact * (1 + 1 / 2 ^ 53) := by
  rcases large with rfl | large
  · rw [nearest.eq_of_onGrid onGrid_zero, zero_mul]
  · have normal : (2 : Rat) ^ (-1022 : Int) ≤ exact :=
      (zpow_le_zpow_right₀ one_le_two (by decide)).trans large
    have near := (abs_le.mp (nearest.abs_sub_le_div normal)).2
    rw [mul_add, mul_one, mul_one_div]
    linarith

end Binary64

namespace Duration

open Binary64

/-- How a span is read as a number of seconds. -/
structure IsRead (span : Duration) (whole part total : Rat) : Prop where
  wholeNearest : IsNearest span.seconds whole
  partNearest : IsNearest (span.subsecond / 1000000000) part
  totalNearest : IsNearest (whole + part) total
  reads : Reads span.toSeconds total

section Reading

variable {span : Duration} {whole part total : Rat}

theorem subsecond_lt (span : Duration) : span.subsecond < 1000000000 :=
  Nat.mod_lt _ (by decide)

theorem cast_nanos (span : Duration) :
    (span.nanos : Rat) = span.seconds * 1000000000 + span.subsecond := by
  exact_mod_cast (Nat.div_add_mod' span.nanos 1000000000).symm

theorem quotient_bounds (span : Duration) :
    0 ≤ (span.subsecond / 1000000000 : Rat) ∧ (span.subsecond / 1000000000 : Rat) ≤ 1 := by
  have less : (span.subsecond : Rat) ≤ 1000000000 := by exact_mod_cast (subsecond_lt span).le
  exact ⟨by positivity, by linarith⟩

theorem exists_isRead (span : Duration) (valid : span.seconds ≤ maxWord) :
    ∃ whole part total, span.IsRead whole part total := by
  have range : (2 : Rat) ^ 64 + 1 ≤ 2 ^ (1023 : Int) :=
    calc
      (2 : Rat) ^ 64 + 1 ≤ 2 ^ (65 : Int) := by norm_num
      _ ≤ 2 ^ (1023 : Int) := zpow_le_zpow_right₀ one_le_two (by decide)
  have one : (1 : Rat) ≤ 2 ^ (1023 : Int) := le_trans (by norm_num) range
  have short : (span.seconds : Rat) ≤ 2 ^ 64 := by exact_mod_cast valid.trans (by decide)
  obtain ⟨whole, readsWhole, wholeNearest⟩ := exists_reads_ofWord valid
  obtain ⟨digits, readsDigits, digitsNearest⟩ :=
    exists_reads_ofWord ((subsecond_lt span).le.trans (by decide))
  rw [digitsNearest.eq_of_onGrid (onGrid_natCast ((subsecond_lt span).le.trans (by decide)))]
    at readsDigits
  obtain ⟨part, readsPart, partNearest⟩ := exists_reads_div readsDigits reads_billion (by norm_num)
    ((quotient_bounds span).2.trans one)
  have wholeBelow : whole ≤ 2 ^ 64 :=
    wholeNearest.le ⟨1, 64, by decide, by decide, by norm_num⟩ short
  have partBelow : part ≤ 1 :=
    partNearest.le onGrid_one (quotient_bounds span).2
  obtain ⟨total, reads, totalNearest⟩ :=
    exists_reads_add readsWhole readsPart ((add_le_add wholeBelow partBelow).trans range)
  exact ⟨whole, part, total, wholeNearest, partNearest, totalNearest, reads⟩

namespace IsRead

theorem part_bounds (read : span.IsRead whole part total) : 0 ≤ part ∧ part ≤ 1 :=
  ⟨read.partNearest.ge onGrid_zero (quotient_bounds span).1,
    read.partNearest.le onGrid_one (quotient_bounds span).2⟩

/-- A short span is read so well that nothing of it is lost. -/
theorem lt_of_short
    (read : span.IsRead whole part total)
    (short : span.nanos ≤ 2 ^ 23 * 1000000000) :
    total * 1000000000 < span.nanos + 1 / 2 := by
  have digits := subsecond_lt span
  have parts : span.nanos = span.seconds * 1000000000 + span.subsecond :=
    (Nat.div_add_mod' span.nanos 1000000000).symm
  have few : span.seconds ≤ 2 ^ 23 := by omega
  have whole_eq : whole = span.seconds :=
    read.wholeNearest.eq_of_onGrid (onGrid_natCast (few.trans (by decide)))
  obtain ⟨partNonneg, partBelow⟩ := read.part_bounds
  -- The sum stays in a binade whose step is `2 ^ (-30)` seconds.
  have sum : whole + part ≤ 2 ^ 53 * 2 ^ (-30 : Int) := by
    have step : (2 : Rat) ^ 53 * 2 ^ (-30 : Int) = 2 ^ 23 := by norm_num
    rw [step, whole_eq]
    rcases few.lt_or_eq with less | full
    · have fewer : (span.seconds : Rat) + 1 ≤ 2 ^ 23 := by exact_mod_cast less
      linarith
    · have none : span.subsecond = 0 := by omega
      have nearest := read.partNearest
      rw [none, Nat.cast_zero, zero_div] at nearest
      rw [nearest.eq_of_onGrid onGrid_zero, full]
      norm_num
  have unit : (span.subsecond / 1000000000 : Rat) ≤ 2 ^ 53 * 2 ^ (-53 : Int) :=
    (quotient_bounds span).2.trans (by norm_num)
  have partNear := read.partNearest.abs_sub_le (by decide) (quotient_bounds span).1 unit
  have totalNear := read.totalNearest.abs_sub_le (by decide) (by rw [whole_eq]; positivity) sum
  have partHigh := (abs_le.mp partNear).2
  have totalHigh := (abs_le.mp totalNear).2
  have nanos := cast_nanos span
  rw [whole_eq] at totalHigh
  norm_num at partHigh totalHigh
  linarith

/-- A span that is not too long is read as a number that has a span. -/
theorem le_of_lt
    (read : span.IsRead whole part total)
    (below : span.seconds < 2 ^ 64 - 1024) : total ≤ 2 ^ 64 - 2048 := by
  have short : (span.seconds : Rat) < 2 ^ 64 - 1024 :=
    lt_sub_iff_add_lt.mpr (by exact_mod_cast (show span.seconds + 1024 < 2 ^ 64 by omega))
  have wholeBelow := read.wholeNearest.le_of_lt short
  have partBelow := read.part_bounds.2
  exact read.totalNearest.le_of_lt (by linarith)

/-- No span is off by more than three roundings, the last of which concerns the sum of the other
two. -/
theorem le_mul (read : span.IsRead whole part total) :
    total * 1000000000 ≤ span.nanos * (1 + 1 / 2 ^ 53) ^ 2 := by
  have wholeNormal : IsLarge (span.seconds : Rat) := by
    rcases Nat.eq_zero_or_pos span.seconds with none | some
    · exact .inl (by exact_mod_cast none)
    · have one : (1 : Rat) ≤ span.seconds := by exact_mod_cast some
      exact .inr (le_trans (by norm_num) one)
  have partNormal : IsLarge (span.subsecond / 1000000000 : Rat) := by
    rcases Nat.eq_zero_or_pos span.subsecond with none | some
    · exact .inl (by rw [none, Nat.cast_zero, zero_div])
    · have one : (1 : Rat) ≤ span.subsecond := by exact_mod_cast some
      exact .inr (le_trans (by norm_num) (div_le_div_of_nonneg_right one (by norm_num)))
  have totalNormal : IsLarge (whole + part) :=
    (read.wholeNearest.isLarge wholeNormal).add (read.partNearest.isLarge partNormal)
  have wholeBelow := read.wholeNearest.le_mul wholeNormal
  have partBelow := read.partNearest.le_mul partNormal
  have totalBelow := read.totalNearest.le_mul totalNormal
  have nanos := cast_nanos span
  calc
    total * 1000000000 ≤ (whole + part) * (1 + 1 / 2 ^ 53) * 1000000000 :=
      mul_le_mul_of_nonneg_right totalBelow (by norm_num)
    _ ≤ (span.seconds + span.subsecond / 1000000000) * (1 + 1 / 2 ^ 53) * (1 + 1 / 2 ^ 53)
          * 1000000000 := by
      rw [add_mul (span.seconds : Rat)]
      gcongr
    _ = span.nanos * (1 + 1 / 2 ^ 53) ^ 2 := by
      rw [nanos]
      ring

end IsRead

end Reading
end Duration
end PubSub
