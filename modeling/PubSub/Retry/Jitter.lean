import PubSub.Binary64

/-!
# Jitter

Jitter turns the delay of a policy into a choice of delays, so that callers that
failed together do not all come back together. A choice is either one exact
duration or all whole milliseconds between two bounds; chance picks one of them.
-/

namespace PubSub

/-- The delays among which chance picks one. -/
inductive Delays
  | exactly (delay : Duration)
  /-- Every whole number of milliseconds between the bounds. -/
  | between (lower upper : Nat)
  deriving DecidableEq

namespace Delays

/-- Whether a delay may be picked. -/
def Allows : Delays → Duration → Prop
  | .exactly delay, picked => picked = delay
  | .between lower upper, picked =>
      ∃ millis, lower ≤ millis ∧ millis ≤ upper ∧ picked = Duration.ofMillis millis

/-- Every delay that may be picked, in increasing order. -/
def toList : Delays → List Duration
  | .exactly delay => [delay]
  | .between lower upper =>
      (List.range' lower (upper + 1 - lower)).map Duration.ofMillis

def shortest : Delays → Duration
  | .exactly delay => delay
  | .between lower _ => Duration.ofMillis lower

@[simp] theorem mem_toList {delays : Delays} {picked : Duration} :
    picked ∈ delays.toList ↔ delays.Allows picked := by
  cases delays with
  | exactly delay => simp [toList, Allows]
  | between lower upper =>
      simp only [toList, Allows, List.mem_map, List.mem_range'_1]
      constructor
      · rintro ⟨millis, bounds, rfl⟩
        exact ⟨millis, by omega, by omega, rfl⟩
      · rintro ⟨millis, above, below, rfl⟩
        exact ⟨millis, by omega, rfl⟩

/-- Whole milliseconds between two bounds; the lower bound alone if the upper one does
not exceed it. -/
def uniform (lower upper : Nat) : Delays :=
  if upper ≤ lower then .exactly (Duration.ofMillis lower) else .between lower upper

end Delays

/-- How delays are randomised. -/
inductive Jitter
  /-- Not at all. -/
  | none
  /-- Anything up to the delay. -/
  | full
  /-- Half of the delay plus anything up to the other half. -/
  | equal
  /-- Anything from a base to three times the previous delay. -/
  | decorrelated
  deriving DecidableEq, Inhabited

namespace Jitter

def name : Jitter → String
  | .none => "None"
  | .full => "Full"
  | .equal => "Equal"
  | .decorrelated => "Decorrelated"

/-- The delays made from one delay; a decorrelated policy, which needs more, keeps it. -/
def apply (jitter : Jitter) (delay : Duration) : Delays :=
  match jitter with
  | .none => .exactly delay
  | .decorrelated => .exactly delay
  | .full => Delays.uniform 0 delay.millis
  | .equal =>
      let half := delay.millis / 2
      Delays.uniform half (half + half)

/-- The upper bound of a decorrelated choice before the base is considered. -/
def decorrelatedBound (previous longest : Duration) : Nat :=
  min (min (3 * previous.millis) maxWord) longest.millis

/-- The delays made from a base and the previous delay, none above `longest`; the other
policies look at the previous delay only. -/
def applyDecorrelated (jitter : Jitter) (base previous longest : Duration) : Delays :=
  match jitter with
  | .decorrelated =>
      let lower := base.millis
      let upper := max (decorrelatedBound previous longest) lower
      if upper ≤ lower then .exactly base else Delays.uniform lower upper
  | .none => jitter.apply previous
  | .full => jitter.apply previous
  | .equal => jitter.apply previous

end Jitter
end PubSub
