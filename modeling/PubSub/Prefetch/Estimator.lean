import PubSub.Batch.Options
import PubSub.Prefetch.Tuning

/-!
# Estimate of the batch size

The estimator measures how fast an application uses up its local queue and moves
the size of background receives towards the size that keeps the desired amount of
work queued.

Messages handed out are counted from `start`, when messages arrived at an empty
window, to `stop`, when a receive first found the queue empty. Each new size
closes the window and opens the next one if the queue is not empty.

With batches of single messages there is nothing to estimate.
-/

namespace PubSub

/-- The state of the estimate. Times are in nanoseconds. -/
structure Estimator (Number : Type) where
  tuning : Tuning Number
  /-- Whether every receive asks for one message. -/
  isSingle : Bool
  /-- The current estimate. -/
  running : Number
  start : Option Nat := none
  stop : Option Nat := none
  /-- Messages handed out since `start`. -/
  count : Nat := 0
  deriving Inhabited

namespace Estimator

variable {Number : Type} [Scalar Number]

/-- The estimate before anything was measured. -/
def create (tuning : Tuning Number) (receiving : BatchOptions) : Estimator Number :=
  { tuning
    isSingle := receiving.isSingle
    running := Scalar.greatest tuning.initial Scalar.one }

/-- Whether a queue of this length is short enough to start a receive. -/
def wantsPrefetch (estimator : Estimator Number) (queueLength : Nat) : Bool :=
  Scalar.atMost (Scalar.ofCount queueLength)
    (estimator.running * estimator.tuning.prefetchRatio)

/-- A message left the queue. -/
def recordDelivery (estimator : Estimator Number) : Estimator Number :=
  { estimator with count := estimator.count + 1 }

/-- A receive found the queue empty. -/
def recordEmpty (estimator : Estimator Number) (now : Nat) : Estimator Number :=
  if estimator.start.isSome && estimator.stop.isNone then { estimator with stop := some now }
  else estimator

/-- Messages arrived in the queue. -/
def recordArrival (estimator : Estimator Number) (now : Nat) : Estimator Number :=
  if estimator.start.isNone then { estimator with start := some now } else estimator

/-- Length of a window; an empty one counts as a millisecond. -/
def elapsed (start stop : Nat) : Duration :=
  if stop - start = 0 then Duration.ofMillis 1 else ⟨stop - start⟩

/-- The estimate after a window, before it is moved into the allowed interval. -/
def measured (estimator : Estimator Number) (start stop : Nat) : Number :=
  let tuning := estimator.tuning
  let rate := Scalar.ofCount estimator.count / Scalar.ofSpan (elapsed start stop)
  let ideal := Scalar.ofSpan tuning.desired * rate
  let blended :=
    estimator.running * (Scalar.one - tuning.decay) + ideal * tuning.decay
  Scalar.greatest
    (Scalar.least blended (estimator.running * tuning.growth))
    (estimator.running * tuning.shrink)

def updated (estimator : Estimator Number) (now : Nat) : Number :=
  let value :=
    match estimator.start with
    | none => estimator.running
    | some start => estimator.measured start (estimator.stop.getD now)
  Scalar.clamp value Scalar.one (Scalar.ofCount estimator.tuning.sizeLimit)

/-- The size of the next receive, and the estimator with a new window. -/
def nextSize
    (estimator : Estimator Number)
    (now queueLength : Nat) : Nat × Estimator Number :=
  if estimator.isSingle then (1, estimator)
  else
    let running := estimator.updated now
    (Scalar.ceil running,
      { estimator with
        running
        start := if queueLength = 0 then none else some now
        stop := none
        count := 0 })

/-- With single messages every receive asks for one and nothing is measured. -/
theorem nextSize_of_isSingle
    (estimator : Estimator Number)
    (now queueLength : Nat)
    (single : estimator.isSingle = true) :
    estimator.nextSize now queueLength = (1, estimator) := by
  simp [nextSize, single]

end Estimator
end PubSub
