import PubSub.Proofs.Retry.Capping

/-!
# Which delays jitter can pick

Jitter keeps the delay that it is given, or it draws a whole number of milliseconds between two
bounds. This module says which delays can be drawn, without the walk over the policies, and that
everything that is computed on the way fits into machine words, however long the spans are.
-/

namespace PubSub

namespace Duration

variable {span : Duration}

theorem millis_le_maxWord (span : Duration) : span.millis ≤ maxWord := Nat.min_le_right ..

/-- A word counts the milliseconds of a span. -/
theorem seconds_ofMillis_le {millis : Nat} (word : millis ≤ maxWord) :
    (ofMillis millis).seconds ≤ maxWord := by
  rw [seconds, nanos_ofMillis]
  omega

/-- Before they are cut off, the milliseconds of a span fit into a double word. -/
theorem wholeMillis_lt (valid : span.seconds ≤ maxWord) : span.wholeMillis < 2 ^ 128 := by
  unfold seconds maxWord at valid
  unfold wholeMillis
  omega

end Duration

namespace Delays

variable {delays : Delays} {lower upper : Nat} {picked : Duration}

/-- Whether delays can be drawn with machine words: a delay that is fixed is a span, and the bounds
of the others are words in their order. -/
def Fits : Delays → Prop
  | .exactly delay => delay.seconds ≤ maxWord
  | .between lower upper => lower < upper ∧ upper ≤ maxWord

theorem allows_uniform_iff (ordered : lower ≤ upper) :
    (uniform lower upper).Allows picked ↔
      ∃ millis, lower ≤ millis ∧ millis ≤ upper ∧ picked = .ofMillis millis := by
  unfold uniform
  split
  next tight =>
    obtain rfl : lower = upper := Nat.le_antisymm ordered tight
    constructor
    · intro same
      exact ⟨lower, Nat.le_refl _, Nat.le_refl _, same⟩
    · rintro ⟨millis, least, most, rfl⟩
      exact congrArg Duration.ofMillis (Nat.le_antisymm most least)
  next => exact Iff.rfl

theorem fits_uniform (ordered : lower ≤ upper) (word : upper ≤ maxWord) :
    (uniform lower upper).Fits := by
  unfold uniform
  split
  next => exact Duration.seconds_ofMillis_le (ordered.trans word)
  next loose => exact ⟨Nat.not_le.mp loose, word⟩

/-- What is drawn with machine words is a span. -/
theorem Fits.seconds_le (fits : delays.Fits) (allowed : delays.Allows picked) :
    picked.seconds ≤ maxWord := by
  cases delays with
  | exactly delay =>
      obtain rfl : picked = delay := allowed
      exact fits
  | between lower upper =>
      obtain ⟨millis, -, most, rfl⟩ := allowed
      exact Duration.seconds_ofMillis_le (most.trans fits.2)

end Delays

namespace Jitter

variable {jitter : Jitter} {delay base previous longest picked : Duration}

theorem allows_apply_full_iff :
    (full.apply delay).Allows picked ↔ ∃ millis ≤ delay.millis, picked = .ofMillis millis := by
  rw [apply, Delays.allows_uniform_iff (Nat.zero_le _)]
  simp

theorem allows_apply_equal_iff :
    (equal.apply delay).Allows picked ↔
      ∃ millis, delay.millis / 2 ≤ millis ∧ millis ≤ 2 * (delay.millis / 2) ∧
        picked = .ofMillis millis := by
  rw [apply, Delays.allows_uniform_iff (Nat.le_add_left ..), Nat.two_mul]

/-- Both halves of an equal delay are drawn apart, and added up. -/
theorem exists_share_of_allows_apply_equal
    (allowed : (equal.apply delay).Allows picked) :
    ∃ share, (Delays.uniform 0 (delay.millis / 2)).Allows share ∧
      picked = ⟨(Duration.ofMillis (delay.millis / 2)).nanos + share.nanos⟩ := by
  obtain ⟨millis, least, most, rfl⟩ := allows_apply_equal_iff.mp allowed
  refine ⟨.ofMillis (millis - delay.millis / 2), ?_, ?_⟩
  · rw [Delays.allows_uniform_iff (Nat.zero_le _)]
    exact ⟨_, Nat.zero_le _, by omega, rfl⟩
  · rw [Duration.nanos_ofMillis, Duration.nanos_ofMillis, ← Nat.add_mul, Nat.add_sub_cancel' least,
      Duration.ofMillis]

theorem fits_apply (valid : delay.seconds ≤ maxWord) : (jitter.apply delay).Fits := by
  have word := delay.millis_le_maxWord
  cases jitter with
  | none | decorrelated => exact valid
  | full => exact Delays.fits_uniform (Nat.zero_le _) word
  | equal => exact Delays.fits_uniform (Nat.le_add_left ..) (by omega)

/-- The other policies look at the previous delay only. -/
theorem applyDecorrelated_of_ne (differ : jitter ≠ decorrelated) :
    jitter.applyDecorrelated base previous longest = jitter.apply previous := by
  cases jitter with
  | decorrelated => contradiction
  | none | full | equal => rfl

/-- A decorrelated choice keeps the base unless the upper bound is above it. -/
theorem allows_applyDecorrelated_iff :
    (decorrelated.applyDecorrelated base previous longest).Allows picked ↔
      if decorrelatedBound previous longest ≤ base.millis then picked = base
      else ∃ millis, base.millis ≤ millis ∧ millis ≤ decorrelatedBound previous longest ∧
        picked = .ofMillis millis := by
  rw [applyDecorrelated]
  split
  next low =>
    rw [if_pos ((Nat.le_max_left ..).trans low)]
    rfl
  next high =>
    have above : base.millis ≤ decorrelatedBound previous longest := by omega
    rw [if_neg fun low => high (Nat.max_le.mpr ⟨low, Nat.le_refl _⟩), Nat.max_eq_left above,
      Delays.allows_uniform_iff above]

theorem fits_applyDecorrelated
    (base_valid : base.seconds ≤ maxWord)
    (previous_valid : previous.seconds ≤ maxWord) :
    (jitter.applyDecorrelated base previous longest).Fits := by
  by_cases other : jitter = decorrelated
  · have word : max (decorrelatedBound previous longest) base.millis ≤ maxWord :=
      Nat.max_le.mpr
        ⟨(Nat.min_le_right ..).trans longest.millis_le_maxWord, base.millis_le_maxWord⟩
    rw [other, applyDecorrelated]
    split
    · exact base_valid
    · exact Delays.fits_uniform (Nat.le_max_right ..) word
  · rw [applyDecorrelated_of_ne other]
    exact fits_apply previous_valid

/-- What each policy can pick is the delay as it is, or exactly the whole milliseconds between two
bounds. Nothing longer than the delay is picked, or than the longest delay unless the base is
longer, and everything that is computed on the way fits into words. -/
theorem allows_exactly_between_bounds
    (jitter : Jitter)
    (delay base previous longest picked : Duration) :
    let half := delay.millis / 2
    let upper := min (min (3 * previous.millis) maxWord) longest.millis
    ((none.apply delay).Allows picked ↔ picked = delay) ∧
    ((decorrelated.apply delay).Allows picked ↔ picked = delay) ∧
    ((full.apply delay).Allows picked ↔ ∃ millis ≤ delay.millis, picked = .ofMillis millis) ∧
    ((equal.apply delay).Allows picked ↔
      ∃ millis, half ≤ millis ∧ millis ≤ 2 * half ∧ picked = .ofMillis millis) ∧
    ((jitter.apply delay).Allows picked → picked ≤ delay) ∧
    ((decorrelated.applyDecorrelated base previous longest).Allows picked ↔
      if upper ≤ base.millis then picked = base
      else ∃ millis, base.millis ≤ millis ∧ millis ≤ upper ∧ picked = .ofMillis millis) ∧
    ((decorrelated.applyDecorrelated base previous longest).Allows picked → base ≤ longest →
      picked ≤ longest) ∧
    (delay.seconds ≤ maxWord →
      delay.wholeMillis < 2 ^ 128 ∧ (jitter.apply delay).Fits ∧
        ((jitter.apply delay).Allows picked → picked.seconds ≤ maxWord)) ∧
    ((equal.apply delay).Allows picked →
      ∃ share, (Delays.uniform 0 half).Allows share ∧ (Delays.uniform 0 half).Fits ∧
        picked = ⟨(Duration.ofMillis half).nanos + share.nanos⟩) ∧
    (base.seconds ≤ maxWord → previous.seconds ≤ maxWord →
      (jitter.applyDecorrelated base previous longest).Fits ∧
        ((jitter.applyDecorrelated base previous longest).Allows picked →
          picked.seconds ≤ maxWord)) := by
  intro half upper
  refine ⟨Iff.rfl, Iff.rfl, allows_apply_full_iff, allows_apply_equal_iff, le_of_allows_apply,
    allows_applyDecorrelated_iff, fun allowed ordered => ?capped, fun valid => ?fits,
    fun allowed => ?halves, fun base_valid previous_valid => ?decorrelated⟩
  case capped => exact le_of_allows_applyDecorrelated ordered allowed
  case fits =>
    have fits : (jitter.apply delay).Fits := fits_apply valid
    exact ⟨Duration.wholeMillis_lt valid, fits, fits.seconds_le⟩
  case halves =>
    obtain ⟨share, drawn, sum⟩ := exists_share_of_allows_apply_equal allowed
    have word : half ≤ maxWord := (Nat.div_le_self ..).trans delay.millis_le_maxWord
    exact ⟨share, drawn, Delays.fits_uniform (Nat.zero_le _) word, sum⟩
  case decorrelated =>
    have fits : (jitter.applyDecorrelated base previous longest).Fits :=
      fits_applyDecorrelated base_valid previous_valid
    exact ⟨fits, fits.seconds_le⟩

/-- With a base of half a second and a previous delay of 700.9 milliseconds the bound is three times
700 milliseconds, which can be picked, unless the longest delay is shorter. -/
theorem allows_exactly_between_bounds_of_seconds :
    let base := Duration.ofMillis 500
    let previous : Duration := ⟨700900000⟩
    let longest := Duration.ofMillis 30000
    base ≤ longest ∧ previous.seconds ≤ maxWord ∧
      (decorrelated.applyDecorrelated base previous longest).Allows (.ofMillis 2100) ∧
      ¬(decorrelated.applyDecorrelated base previous longest).Allows (.ofMillis 2101) ∧
      Duration.ofMillis 2100 ≤ longest := by
  intro base previous longest
  have picks (millis : Nat) :=
    allows_exactly_between_bounds .decorrelated base base previous longest (.ofMillis millis)
  obtain ⟨-, -, -, -, -, drawn, capped, -⟩ := picks 2100
  rw [if_neg (by decide)] at drawn
  have allowed := drawn.mpr ⟨2100, by decide, by decide, rfl⟩
  refine ⟨by decide, by decide, allowed, fun beyond => ?_, capped allowed (by decide)⟩
  obtain ⟨-, -, -, -, -, drawn, -⟩ := picks 2101
  rw [if_neg (by decide)] at drawn
  obtain ⟨millis, -, most, same⟩ := drawn.mp beyond
  have bound : millis ≤ 2100 := most.trans (by decide)
  have reached : 2101 * 1000000 = millis * 1000000 := congrArg Duration.nanos same
  omega

end Jitter
end PubSub
