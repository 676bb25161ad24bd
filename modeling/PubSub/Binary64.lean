import PubSub.Duration

/-!
# Binary floating point at the edges

Durations meet binary floating point in two places: a duration is read as a
number of seconds, and a number of seconds is turned back into a duration. The
second conversion is exact on the mathematical value of the number: it goes to
the nearest nanosecond, a half to the even one.

`power` is the product of squarings whose every step is rounded once, so its
result is fixed for every exponent.
-/

namespace PubSub

namespace Binary64

/-- The leading bit that a significand does not store: `2 ^ 52`. -/
def impliedBit : Nat := 4503599627370496

/-- The significand and exponent of the magnitude of a finite number: it equals
`significand * 2 ^ exponent`. -/
def magnitude (value : Float) : Nat × Int :=
  let bits : Nat := value.toBits.toNat
  let fraction : Nat := bits % impliedBit
  let exponent : Nat := bits / impliedBit % 2048
  if exponent = 0 then (fraction, -1074) else (impliedBit + fraction, (exponent : Int) - 1075)

/-- The quotient rounded to the nearest integer, a half to the even one. -/
def roundDiv (numerator denominator : Nat) : Nat :=
  let quotient := numerator / denominator
  let twice := 2 * (numerator % denominator)
  if twice < denominator then quotient
  else if denominator < twice then quotient + 1
  else quotient + quotient % 2

/-- The value with the given decimal scale, rounded to an integer. -/
def scaledRound (value : Float) (scale : Nat) : Nat :=
  let (significand, exponent) := magnitude value
  if 0 ≤ exponent then (significand * scale) <<< exponent.toNat
  else roundDiv (significand * scale) (1 <<< (-exponent).toNat)

/-- Multiply `product` by `base ^ exponent`, squaring `base` as the bits of the exponent
are consumed. -/
def powerLoop (product base : Float) (exponent : Nat) : Float :=
  let product := if exponent % 2 = 1 then product * base else product
  if exponent / 2 = 0 then product
  else powerLoop product (base * base) (exponent / 2)
termination_by exponent

def power (base : Float) (exponent : Nat) : Float := powerLoop 1.0 base exponent

/-- A machine word as a number, rounded to nearest. -/
def ofWord (word : Nat) : Float := (UInt64.ofNat word).toFloat

/-- The smallest integer not below the value, as a machine word: too large values stop at
the largest word, negative ones and values that are not numbers at zero. -/
def ceilWord (value : Float) : Nat := value.ceil.toUInt64.toNat

/-- The smaller operand, or the one that is a number. -/
def least (left right : Float) : Float :=
  if left.isNaN then right
  else if right.isNaN then left
  else if right < left then right else left

/-- The larger operand, or the one that is a number. -/
def greatest (left right : Float) : Float :=
  if left.isNaN then right
  else if right.isNaN then left
  else if left < right then right else left

end Binary64

namespace Duration

/-- The span in seconds: whole seconds plus the quotient of the nanoseconds. -/
def toSeconds (span : Duration) : Float :=
  Binary64.ofWord span.seconds + Binary64.ofWord span.subsecond / 1e9

/-- The span of a number of seconds, to the nearest nanosecond; `none` for a negative or
not finite number and for one that needs `2 ^ 64` or more whole seconds. -/
def ofSeconds? (value : Float) : Option Duration :=
  if value.isNaN || value.isInf || value < 0.0 then none
  else
    Option.guard (fun span => span.seconds ≤ maxWord)
      (⟨Binary64.scaledRound value 1000000000⟩ : Duration)

end Duration
end PubSub
