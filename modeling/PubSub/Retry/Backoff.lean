import PubSub.Retry.Jitter

/-!
# Backoff

The delay before another attempt grows geometrically with the number of attempts
made, up to a longest delay, and is then randomised. It depends on the attempt
number alone and not on delays picked before. The growth is computed in binary
floating point; a product that is not a number, not finite, negative or above the
longest delay is replaced by the longest delay.
-/

namespace PubSub

/-- How long to wait between attempts. -/
structure Backoff where
  /-- Delay before the second attempt. -/
  first : Duration
  /-- No delay is meant to exceed this one. -/
  longest : Duration
  /-- Growth from one attempt to the next. -/
  factor : Float
  jitter : Jitter
  deriving Inhabited

namespace Backoff

/-- One second, doubling up to thirty, fully randomised. -/
def standard : Backoff :=
  { first := Duration.ofMillis 1000
    longest := Duration.ofMillis 30000
    factor := 2.0
    jitter := .full }

/-- No delay at all. -/
def immediate : Backoff :=
  { first := Duration.zero, longest := Duration.zero, factor := 1.0, jitter := .none }

/-- The exponent of an attempt: attempts beyond the largest exponent count as that one. -/
def exponent (attempt : Nat) : Nat := min attempt 2147483647

/-- The delay in seconds before it is capped. -/
def uncapped (policy : Backoff) (attempt : Nat) : Float :=
  policy.first.toSeconds * Binary64.power policy.factor (exponent attempt)

/-- The delay before jitter; `none` if the number of seconds is within the cap as a
floating point number but has no duration. -/
def base? (policy : Backoff) (attempt : Nat) : Option Duration :=
  let seconds := policy.uncapped attempt
  if seconds.isNaN || seconds.isInf || seconds < 0.0 || policy.longest.toSeconds < seconds then
    some policy.longest
  else Duration.ofSeconds? seconds

/-- The delays before the attempt after number `attempt`, counted from zero; `none` if the
delay before jitter has no duration. -/
def next? (policy : Backoff) (attempt : Nat) : Option Delays :=
  (policy.base? attempt).map fun base =>
    match policy.jitter with
    | .decorrelated =>
        policy.jitter.applyDecorrelated (policy.first.shorter policy.longest) base policy.longest
    | .none => policy.jitter.apply base
    | .full => policy.jitter.apply base
    | .equal => policy.jitter.apply base

/-- What is reported when a number of seconds has no duration. -/
def conversionFailure : String :=
  "cannot convert float seconds to Duration: value is either too big or NaN"

end Backoff
end PubSub
