import PubSub.Duration

/-!
# Limits of batches

A zero stands for "no limit" in the two upper limits of a batch, for one in the
number of handlers and in the lower limit, and for no waiting in the linger time.

`BatchOptions.split` divides a request into the sizes of concurrent calls.
-/

namespace PubSub

/-- Limits on batches and on the handlers that work on them. -/
structure BatchOptions where
  /-- Handlers that may work at the same time. -/
  maxHandlers : Nat := 1
  /-- Items a batch must have, unless everything is being flushed. -/
  minSize : Nat := 1
  /-- Items a batch may have. -/
  maxSize : Nat := 0
  /-- Bytes a batch may have. -/
  maxBytes : Nat := 0
  /-- How long a batch with room left may wait for more items. -/
  linger : Duration := Duration.zero
  deriving DecidableEq, Inhabited

namespace BatchOptions

/-- One item at a time. -/
def single : BatchOptions := { maxSize := 1 }

/-- Handlers that may work at the same time; at least one. -/
def handlerLimit (options : BatchOptions) : Nat := max options.maxHandlers 1

/-- Items a batch must have; at least one. -/
def lowerLimit (options : BatchOptions) : Nat := max options.minSize 1

/-- Whether batches have one item and never overlap. -/
def isSingle (options : BatchOptions) : Bool :=
  options.maxSize == 1 && options.handlerLimit == 1

theorem handlerLimit_pos (options : BatchOptions) : 0 < options.handlerLimit := by
  unfold handlerLimit
  omega

theorem lowerLimit_pos (options : BatchOptions) : 0 < options.lowerLimit := by
  unfold lowerLimit
  omega

/-- Sizes of at most `slots` calls for `left` items. -/
def splitOver (options : BatchOptions) : (slots left : Nat) → List Nat
  | 0, _ => []
  | slots + 1, left =>
      if left < options.lowerLimit then []
      else
        let size := min options.maxSize left
        size :: splitOver options slots (left - size)

/-- The sizes of the concurrent calls that ask for `count` items together. -/
def split (options : BatchOptions) (count : Nat) : List Nat :=
  if count < options.lowerLimit then []
  else if options.maxSize = 0 then [count]
  else splitOver options options.handlerLimit count

/-- The options as they are shown to someone who looks for a mistake. -/
def shown (options : BatchOptions) : String :=
  "BatcherOptions \x7b max_handlers: " ++ Nat.repr options.maxHandlers
    ++ ", min_batch_size: " ++ Nat.repr options.minSize
    ++ ", max_batch_size: " ++ Nat.repr options.maxSize
    ++ ", max_batch_byte_size: " ++ Nat.repr options.maxBytes
    ++ ", linger: " ++ options.linger.text ++ " \x7d"

end BatchOptions
end PubSub
