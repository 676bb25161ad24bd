import PubSub.Binary64

/-!
# Numbers of the batch size estimate

The size of background receives is estimated with real numbers. `Scalar` names the
operations the estimate needs, so that the same formulas can be read in binary
floating point, where every operation rounds, and in an exact field.

`Tuning` holds the constants of the estimate.
-/

namespace PubSub

/-- The arithmetic of the estimate. -/
class Scalar (Number : Type) extends
    Add Number, Sub Number, Mul Number, Div Number where
  one : Number
  ofCount : Nat → Number
  ofSpan : Duration → Number
  /-- Whether the left number is at most the right one. -/
  atMost : Number → Number → Bool
  /-- The smaller of two numbers. -/
  least : Number → Number → Number
  /-- The larger of two numbers. -/
  greatest : Number → Number → Number
  /-- Move a number into an interval. -/
  clamp : Number → Number → Number → Number
  /-- The smallest count not below a number. -/
  ceil : Number → Nat

/-- Binary floating point. What is not a number stays so when it is clamped, and the least
and the greatest of it and a number is the number. -/
instance : Scalar Float where
  one := 1.0
  ofCount := Binary64.ofWord
  ofSpan := Duration.toSeconds
  atMost left right := left ≤ right
  least := Binary64.least
  greatest := Binary64.greatest
  clamp value lower upper :=
    if value < lower then lower else if upper < value then upper else value
  ceil := Binary64.ceilWord

/-- Exact arithmetic. -/
instance : Scalar Rat where
  add := Rat.add
  sub := Rat.sub
  mul := Rat.mul
  div := Rat.div
  one := mkRat 1 1
  ofCount count := mkRat count 1
  ofSpan span := mkRat span.nanos 1000000000
  atMost left right := !right.blt left
  least left right := if right.blt left then right else left
  greatest left right := if left.blt right then right else left
  clamp value lower upper :=
    if value.blt lower then lower else if upper.blt value then upper else value
  ceil value := value.ceil.toNat

/-- Constants of the batch size estimate. -/
structure Tuning (Number : Type) where
  /-- How much time it should take to use up the local queue. -/
  desired : Duration
  /-- How long one receive of the driver is expected to take. -/
  expected : Duration
  /-- Batch size before anything was measured. -/
  initial : Number
  /-- Weight of the newest measurement. -/
  decay : Number
  /-- Largest factor between two estimates. -/
  growth : Number
  /-- Smallest factor between two estimates. -/
  shrink : Number
  /-- Upper bound of a batch. -/
  maxSize : Nat
  deriving Inhabited

namespace Tuning

/-- Two seconds of messages, receives of one second, from one message up to 3000. -/
def standard : Tuning Float :=
  { desired := Duration.ofMillis 2000
    expected := Duration.ofMillis 1000
    initial := 1.0
    decay := 0.5
    growth := 2.0
    shrink := 0.75
    maxSize := 3000 }

/-- The same in exact arithmetic. -/
def exact : Tuning Rat :=
  { desired := Duration.ofMillis 2000
    expected := Duration.ofMillis 1000
    initial := 1
    decay := 1 / 2
    growth := 2
    shrink := 3 / 4
    maxSize := 3000 }

variable {Number : Type} [Scalar Number]

/-- Fill level of the queue, relative to the batch size, at which a receive starts. -/
def prefetchRatio (tuning : Tuning Number) : Number :=
  if tuning.desired.isZero then Scalar.one
  else Scalar.ofSpan tuning.expected / Scalar.ofSpan tuning.desired

/-- The largest batch, at least one. -/
def sizeLimit (tuning : Tuning Number) : Nat := max tuning.maxSize 1

end Tuning
end PubSub
