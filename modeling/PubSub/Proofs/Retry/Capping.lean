import PubSub.Proofs.Binary64.Seconds
import PubSub.Proofs.Retry.Scripted

/-!
# How long a policy delays at most

Whether a delay is longer than the longest one is decided in binary floating point, and one that is
not is converted back to a span. So the delay before jitter is at most the longest one, or it is at
most as long as the number of seconds as which the longest one is read. Jitter only shortens it.

A longest delay of up to `2 ^ 23` seconds is read so well that it is never exceeded. A longer one is
exceeded by rounding only. One of almost `2 ^ 64` seconds is read as a number that has no span, and
then there may be no delay at all.
-/

namespace PubSub

open Binary64

/-! ## Jitter -/

namespace Delays

variable {lower upper : Nat} {picked : Duration}

theorem wholeMillis_le_of_allows_uniform
    (allowed : (uniform lower upper).Allows picked)
    (ordered : lower ≤ upper) : ∃ millis ≤ upper, picked = Duration.ofMillis millis := by
  unfold uniform at allowed
  split at allowed
  next => exact ⟨lower, ordered, allowed⟩
  next =>
    obtain ⟨millis, -, most, same⟩ := allowed
    exact ⟨millis, most, same⟩

end Delays

namespace Duration

/-- Whole milliseconds that are in a span are no longer than it. -/
theorem ofMillis_le {span : Duration} {millis : Nat} (within : millis ≤ span.millis) :
    ofMillis millis ≤ span := by
  have fewer : millis ≤ span.wholeMillis := within.trans (Nat.min_le_left ..)
  exact Nat.le_trans (Nat.mul_le_mul_right _ fewer) (ofMillis_wholeMillis_le span)

end Duration

namespace Jitter

variable {jitter : Jitter} {delay base longest picked : Duration}

/-- Jitter makes no delay longer. -/
theorem le_of_allows_apply (allowed : (jitter.apply delay).Allows picked) : picked ≤ delay := by
  cases jitter with
  | none | decorrelated =>
      obtain rfl : picked = delay := allowed
      exact Nat.le_refl _
  | full =>
      obtain ⟨millis, most, rfl⟩ :=
        Delays.wholeMillis_le_of_allows_uniform allowed (Nat.zero_le _)
      exact Duration.ofMillis_le most
  | equal =>
      obtain ⟨millis, most, rfl⟩ :=
        Delays.wholeMillis_le_of_allows_uniform allowed (Nat.le_add_left ..)
      exact Duration.ofMillis_le (by omega)

theorem le_of_allows_applyDecorrelated
    (ordered : base ≤ longest)
    (allowed : (Jitter.decorrelated.applyDecorrelated base delay longest).Allows picked) :
    picked ≤ longest := by
  have lower : base.millis ≤ longest.millis := by
    have fewer : base.wholeMillis ≤ longest.wholeMillis := Nat.div_le_div_right ordered
    unfold Duration.millis
    omega
  unfold applyDecorrelated at allowed
  dsimp only at allowed
  split at allowed
  next =>
    obtain rfl : picked = base := allowed
    exact ordered
  next =>
    obtain ⟨millis, most, rfl⟩ :=
      Delays.wholeMillis_le_of_allows_uniform allowed (Nat.le_max_right ..)
    have bound : decorrelatedBound delay longest ≤ longest.millis := Nat.min_le_right ..
    exact Duration.ofMillis_le (by omega)

end Jitter

namespace Backoff

variable {policy : Backoff} {attempt : Nat}

/-- A delay that is picked is no longer than the one before jitter, or no longer than the longest
one. -/
theorem le_of_next?
    {delays : Delays}
    (next : policy.next? attempt = some delays)
    {picked : Duration}
    (allowed : delays.Allows picked) :
    ∃ base, policy.base? attempt = some base ∧ (picked ≤ base ∨ picked ≤ policy.longest) := by
  obtain ⟨base, found, rfl⟩ := Option.map_eq_some_iff.mp next
  refine ⟨base, found, ?_⟩
  cases jitter : policy.jitter with
  | decorrelated =>
      rw [jitter] at allowed
      exact .inr (Jitter.le_of_allows_applyDecorrelated (Nat.min_le_right ..) allowed)
  | none | full | equal =>
      rw [jitter] at allowed
      exact .inl (Jitter.le_of_allows_apply allowed)

section Base

variable {total : Rat} {bound : Nat}

/-- The delay before jitter is the longest one, or it comes from a number of seconds that is not
above the one as which the longest one is read. -/
theorem base?_cases
    (reads : Reads policy.longest.toSeconds total)
    (below : total * 1000000000 < bound + 1 / 2)
    (attempt : Nat) :
    policy.base? attempt = some policy.longest ∨
      ∃ nanos ≤ bound,
        policy.base? attempt =
          Option.guard (fun span => span.seconds ≤ maxWord) (Duration.mk nanos) := by
  unfold base?
  dsimp only
  split
  next => exact .inl rfl
  next within =>
    simp only [Bool.or_eq_true, decide_eq_true_eq, not_or, Bool.not_eq_true] at within
    obtain ⟨⟨⟨number, finite⟩, nonneg⟩, notAbove⟩ := within
    have worth := reads_magnitude number finite nonneg
    have most := mul_le_mul_of_nonneg_right (worth.le reads notAbove) (Nat.cast_nonneg 1000000000)
    rw [Nat.cast_ofNat] at most
    refine .inr ⟨_, scaledRound_le worth (most.trans_lt below), ?_⟩
    rw [Duration.ofSeconds?, number, finite, decide_eq_false nonneg]
    rfl

theorem base?_le
    (reads : Reads policy.longest.toSeconds total)
    (below : total * 1000000000 < bound + 1 / 2)
    (within : policy.longest.nanos ≤ bound)
    {base : Duration}
    (found : policy.base? attempt = some base) : base.nanos ≤ bound := by
  rcases base?_cases reads below attempt with longest | ⟨nanos, few, converted⟩
  · cases longest.symm.trans found
    exact within
  · obtain ⟨rfl, -⟩ := Option.guard_eq_some_iff.mp (converted.symm.trans found)
    exact few

/-- There is a delay before jitter if the longest one is read as a number that has a span. -/
theorem exists_base?
    (reads : Reads policy.longest.toSeconds total)
    (below : total * 1000000000 < bound + 1 / 2)
    (fits : (Duration.mk bound).seconds ≤ maxWord)
    (attempt : Nat) : ∃ base, policy.base? attempt = some base := by
  rcases base?_cases reads below attempt with longest | ⟨nanos, few, converted⟩
  · exact ⟨_, longest⟩
  · have short : (Duration.mk nanos).seconds ≤ maxWord :=
      (Nat.div_le_div_right few).trans fits
    exact ⟨_, converted.trans (Option.guard_eq_some_iff.mpr ⟨rfl, by simpa using short⟩)⟩

theorem picked_le
    (reads : Reads policy.longest.toSeconds total)
    (below : total * 1000000000 < bound + 1 / 2)
    (within : policy.longest.nanos ≤ bound)
    {delays : Delays}
    {picked : Duration}
    (next : policy.next? attempt = some delays)
    (allowed : delays.Allows picked) : picked.nanos ≤ bound := by
  obtain ⟨base, found, ends⟩ := le_of_next? next allowed
  rcases ends with shorter | capped
  · exact Nat.le_trans shorter (base?_le reads below within found)
  · exact Nat.le_trans capped within

end Base

/-- Whatever the first delay, the factor and the jitter are: before every attempt there is a delay
to pick, unless the longest delay is within 1024 seconds of `2 ^ 64` seconds. Every delay that is
picked is at most the longest one if that is at most `2 ^ 23` seconds, and otherwise exceeds it by
rounding only, by at most one part in `2 ^ 51` and one nanosecond. -/
theorem delay_capped
    (policy : Backoff)
    (valid : policy.longest.seconds ≤ maxWord)
    (attempt : Nat) :
    (policy.longest.seconds < 2 ^ 64 - 1024 →
      ∃ delays picked, policy.next? attempt = some delays ∧ delays.Allows picked) ∧
    ∀ delays picked, policy.next? attempt = some delays → delays.Allows picked →
      (policy.longest ≤ Duration.ofParts (2 ^ 23) 0 → picked ≤ policy.longest) ∧
        picked.nanos ≤ policy.longest.nanos + policy.longest.nanos / 2 ^ 51 + 1 := by
  obtain ⟨whole, part, total, read⟩ := Duration.exists_isRead policy.longest valid
  refine ⟨fun below => ?returns, fun delays picked next allowed => ⟨fun short => ?capped, ?close⟩⟩
  case returns =>
    have most := read.le_of_lt below
    have fits : total * 1000000000 < ((2 ^ 64 - 2048) * 1000000000 : Nat) + 1 / 2 := by
      norm_num at most ⊢
      linarith
    obtain ⟨base, found⟩ := exists_base? read.reads fits (by decide) attempt
    have next : policy.next? attempt = some _ := congrArg (Option.map _) found
    exact ⟨_, _, next, allows_shortest next⟩
  case capped => exact picked_le read.reads (read.lt_of_short short) (Nat.le_refl _) next allowed
  case close =>
    refine picked_le read.reads (read.le_mul.trans_lt ?_) (by omega) next allowed
    have floor : policy.longest.nanos < (policy.longest.nanos / 2 ^ 51 + 1) * 2 ^ 51 := by omega
    have share : (policy.longest.nanos : Rat) <
        ((policy.longest.nanos / 2 ^ 51 : Nat) + 1) * 2 ^ 51 := by exact_mod_cast floor
    rw [Nat.cast_add, Nat.cast_add, Nat.cast_one]
    norm_num at share ⊢
    linarith

theorem delay_capped_of_standard :
    standard.longest.seconds ≤ maxWord ∧
      ∃ delays picked, standard.next? 7 = some delays ∧ delays.Allows picked ∧
        picked ≤ standard.longest := by
  have valid : standard.longest.seconds ≤ maxWord := by decide
  obtain ⟨returns, capped⟩ := delay_capped standard valid 7
  obtain ⟨delays, picked, next, allowed⟩ := returns (by decide)
  exact ⟨valid, delays, picked, next, allowed, (capped delays picked next allowed).1 (by decide)⟩

/-- The same delay before every attempt. -/
def constant (delay : Duration) : Backoff :=
  { first := delay, longest := delay, factor := 1.0, jitter := .none }

/-- Both bounds are sharp. The longest span is a delay that a policy cannot give back, as is one of
`2 ^ 64 - 1024` seconds, and a nanosecond more than `2 ^ 23` seconds is given back as two
nanoseconds more. -/
theorem delay_over_longest :
    (constant (.ofParts maxWord 999999999)).next? 0 = none ∧
      (constant (.ofParts (2 ^ 64 - 1024) 0)).next? 0 = none ∧
      (constant (.ofParts (2 ^ 23) 1)).next? 0 = some (.exactly (.ofParts (2 ^ 23) 2)) ∧
      ¬Duration.ofParts (2 ^ 23) 2 ≤ (constant (.ofParts (2 ^ 23) 1)).longest := by
  decide +kernel

end Backoff
end PubSub
