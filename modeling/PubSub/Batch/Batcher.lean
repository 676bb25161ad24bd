import PubSub.Batch.Options
import PubSub.Error

/-!
# Batcher

A batcher groups items into batches and gives each batch to a handler. The result
of a handler answers every item of its batch.

The state is what all tasks share: the queue of pending items, the number of
handlers at work, and two flags. Items enter through `accept`. They leave in the
order in which they entered, through `accept`, `lingerEnded`, `shutdown` and
`nextBatch`, which all cut batches off the front of the queue, or one by one
through `withdraw`. Each operation is one uninterrupted step; it says which
handlers have to be started and whether a linger timer has to be.

An idle batcher has no pending item and no handler. Every step that makes it idle
counts one notice, which is what a flush waits for.
-/

namespace PubSub

/-- A pending item. -/
structure Entry (Item : Type) where
  /-- Number under which the item was accepted. -/
  id : Nat
  item : Item
  size : Nat
  deriving DecidableEq

/-- The shared state of a batcher. -/
structure Batcher (Item : Type) where
  options : BatchOptions
  /-- Items that no handler has taken, oldest first. -/
  pending : List (Entry Item) := []
  pendingBytes : Nat := 0
  handlers : Nat := 0
  /-- Number of the next item. -/
  nextId : Nat := 0
  isShutdown : Bool := false
  /-- Whether a linger timer is running. -/
  lingerArmed : Bool := false
  /-- Results given to items, newest first. -/
  answers : List (Nat × Outcome Unit) := []
  /-- Items that were taken back and never get a result, newest first. -/
  withdrawn : List Nat := []
  /-- How often the batcher became idle. -/
  idleNotices : Nat := 0
  deriving Inhabited

/-- What a step that hands out batches leads to. -/
structure Dispatch (Item : Type) where
  batcher : Batcher Item
  /-- Batches that need a new handler each. -/
  started : List (List (Entry Item))
  /-- Whether a linger timer has to be started. -/
  armed : Bool

namespace BatchOptions

/-- Whether an item still fits a batch that has `count` items and `bytes` bytes. Every item
fits an empty batch. -/
def hasRoom (options : BatchOptions) (count bytes size : Nat) : Bool :=
  !(0 < options.maxSize && options.maxSize ≤ count)
    && !(0 < options.maxBytes && 0 < count && options.maxBytes < bytes + size)

@[simp] theorem hasRoom_empty (options : BatchOptions) (bytes size : Nat) :
    options.hasRoom 0 bytes size = true := by
  simp only [hasRoom, Bool.and_eq_true, Bool.not_eq_true', Bool.and_eq_false_iff,
    decide_eq_false_iff_not]
  omega

/-- Cut a batch that already has `count` items and `bytes` bytes off the front of a
queue. -/
def cut {Item : Type} (options : BatchOptions) (count bytes : Nat) :
    List (Entry Item) → List (Entry Item) × List (Entry Item)
  | [] => ([], [])
  | front :: rest =>
      if options.hasRoom count bytes front.size then
        let parts := cut options (count + 1) (bytes + front.size) rest
        (front :: parts.1, parts.2)
      else ([], front :: rest)

/-- Cutting loses nothing and keeps the order. -/
theorem cut_append {Item : Type}
    (options : BatchOptions)
    (count bytes : Nat)
    (queue : List (Entry Item)) :
    (options.cut count bytes queue).1 ++ (options.cut count bytes queue).2 = queue := by
  induction queue generalizing count bytes with
  | nil => rfl
  | cons front rest hypothesis =>
      unfold cut
      split
      · simp [hypothesis]
      · rfl

/-- A batch cut off a nonempty queue has at least its first item. -/
theorem cut_cons {Item : Type}
    (options : BatchOptions)
    (front : Entry Item)
    (rest : List (Entry Item)) :
    options.cut 0 0 (front :: rest)
      = (front :: (options.cut 1 front.size rest).1, (options.cut 1 front.size rest).2) := by
  simp [cut]

/-- What is left after a cut is shorter than a nonempty queue. -/
theorem length_cut_lt {Item : Type}
    (options : BatchOptions)
    {queue : List (Entry Item)}
    (nonempty : queue ≠ []) :
    (options.cut 0 0 queue).2.length < queue.length := by
  cases queue with
  | nil => contradiction
  | cons front rest =>
      have parts := congrArg List.length (options.cut_append 1 front.size rest)
      rw [List.length_append] at parts
      simp only [cut_cons, List.length_cons]
      omega

end BatchOptions

namespace Batcher

variable {Item : Type}

def create (options : BatchOptions) : Batcher Item := { options }

/-- Whether the pending items reach an upper limit of a batch. -/
def isFull (batcher : Batcher Item) : Bool :=
  (0 < batcher.options.maxSize && batcher.options.maxSize ≤ batcher.pending.length)
    || (0 < batcher.options.maxBytes && batcher.options.maxBytes ≤ batcher.pendingBytes)

/-- Whether nothing is pending and no handler is at work. -/
def isIdle (batcher : Batcher Item) : Bool :=
  batcher.handlers == 0 && batcher.pending.isEmpty

/-- Whether a batch may be handed out; `lingered` means that the items have waited long
enough for company. -/
def isReady (batcher : Batcher Item) (lingered : Bool) : Bool :=
  !batcher.pending.isEmpty
    && (batcher.isShutdown
      || (batcher.options.lowerLimit ≤ batcher.pending.length
        && (lingered || batcher.options.linger.isZero || batcher.isFull)))

def bytesOf : List (Entry Item) → Nat
  | [] => 0
  | entry :: rest => entry.size + bytesOf rest

/-- The next batch, if one is ready, and the batcher without it. -/
def takeBatch (batcher : Batcher Item) (lingered : Bool) :
    Option (List (Entry Item) × Batcher Item) :=
  if batcher.isReady lingered then
    let parts := batcher.options.cut 0 0 batcher.pending
    some (parts.1,
      { batcher with
        pending := parts.2
        pendingBytes := batcher.pendingBytes - bytesOf parts.1 })
  else none

/-- Taking a batch shortens the queue. -/
theorem length_pending_of_takeBatch
    {batcher rest : Batcher Item}
    {lingered : Bool}
    {batch : List (Entry Item)}
    (taken : batcher.takeBatch lingered = some (batch, rest)) :
    rest.pending.length < batcher.pending.length := by
  unfold takeBatch at taken
  split at taken
  next ready =>
    cases taken
    apply BatchOptions.length_cut_lt
    intro empty
    simp [isReady, empty] at ready
  next => contradiction

/-- Hand out batches while one is ready and a handler may start. -/
def startBatches (batcher : Batcher Item) (lingered : Bool) :
    List (List (Entry Item)) × Batcher Item :=
  if batcher.handlers < batcher.options.handlerLimit then
    match taken : batcher.takeBatch lingered with
    | none => ([], batcher)
    | some (batch, rest) =>
        have := length_pending_of_takeBatch taken
        let later := startBatches { rest with handlers := rest.handlers + 1 } lingered
        (batch :: later.1, later.2)
  else ([], batcher)
termination_by batcher.pending.length

/-- Whether items wait although a handler may start, so that a linger timer is needed. -/
def needsLinger (batcher : Batcher Item) : Bool :=
  !batcher.pending.isEmpty
    && batcher.handlers < batcher.options.handlerLimit
    && !batcher.isShutdown
    && !batcher.options.linger.isZero
    && !batcher.lingerArmed

/-- Hand out what is ready and arm the linger timer if items have to wait for it. -/
def dispatch (batcher : Batcher Item) (lingered : Bool) : Dispatch Item :=
  let started := batcher.startBatches lingered
  if started.2.needsLinger then
    { batcher := { started.2 with lingerArmed := true }, started := started.1, armed := true }
  else { batcher := started.2, started := started.1, armed := false }

/-- Accept an item and hand out what is ready; the number is the item's. -/
def accept (batcher : Batcher Item) (size : Nat) (item : Item) :
    Outcome (Nat × Dispatch Item) :=
  if 0 < batcher.options.maxBytes && batcher.options.maxBytes < size then
    .error (.oversizedItem size batcher.options.maxBytes)
  else if batcher.isShutdown then .error .batcherShutdown
  else
    let longer : Batcher Item :=
      { batcher with
        pending := batcher.pending ++ [{ id := batcher.nextId, item, size }]
        pendingBytes := batcher.pendingBytes + size
        nextId := batcher.nextId + 1 }
    .ok (batcher.nextId, longer.dispatch false)

def noteIdle (batcher : Batcher Item) : Batcher Item :=
  if batcher.isIdle then { batcher with idleNotices := batcher.idleNotices + 1 } else batcher

/-- Take a pending item back; a batch that has it keeps it. -/
def withdraw (batcher : Batcher Item) (id : Nat) : Batcher Item :=
  match batcher.pending.find? (·.id == id) with
  | none => batcher
  | some entry =>
      noteIdle
        { batcher with
          pending := batcher.pending.eraseP (·.id == id)
          pendingBytes := batcher.pendingBytes - entry.size
          withdrawn := id :: batcher.withdrawn }

/-- The linger time is over. -/
def lingerEnded (batcher : Batcher Item) : Dispatch Item :=
  dispatch { batcher with lingerArmed := false } true

/-- Accept nothing more and hand out everything, whatever the lower limit. -/
def shutdown (batcher : Batcher Item) : Dispatch Item :=
  dispatch { batcher with isShutdown := true } true

def answer (batcher : Batcher Item) (id : Nat) (result : Outcome Unit) : Batcher Item :=
  { batcher with answers := (id, result) :: batcher.answers }

/-- The result given to an item. -/
def answer? (batcher : Batcher Item) (id : Nat) : Option (Outcome Unit) :=
  batcher.answers.lookup id

/-- A handler that has answered its batch goes on with the next one, or stops. -/
def nextBatch (batcher : Batcher Item) : Option (List (Entry Item)) × Batcher Item :=
  match batcher.takeBatch true with
  | some (next, rest) => (some next, rest)
  | none => (none, noteIdle { batcher with handlers := batcher.handlers - 1 })

def stateLine (batcher : Batcher Item) : String :=
  "pending: " ++ Nat.repr batcher.pending.length
    ++ ", handlers: " ++ Nat.repr batcher.handlers
    ++ ", shutdown: " ++ toString batcher.isShutdown

/-- A batcher as it is shown to someone who looks for a mistake. -/
def shown (batcher : Batcher Item) : String :=
  "Batcher \x7b opts: " ++ batcher.options.shown ++ ", " ++ batcher.stateLine ++ " \x7d"

end Batcher
end PubSub
