import PubSub.Batch.Batcher
import PubSub.Task

/-!
# Tasks on a batcher

A caller adds an item and waits for the result of its batch. A handler task calls
the handler for one batch after the other, until none is ready, and answers the items
of a batch one by one. A linger timer hands out items that have waited long enough. A
flush shuts the batcher down and waits until it is idle.

Every turn is at most one operation of `Batcher`, so the tasks may interleave in any
way. A flush is woken by notices only: it goes on when the number of notices differs
from the number it has seen. It begins to listen before it looks whether the batcher is
idle, so that no notice gets lost in between.
-/

namespace PubSub

/-- What a step that hands out batches asks for. -/
inductive BatchEffect (Item : Type)
  | startHandler (batch : List (Entry Item))
  /-- Start a linger timer that goes off at a time. -/
  | startLinger (wakeAt : Nat)

/-- The tasks that have to be started. -/
def Dispatch.effects {Item : Type} (dispatch : Dispatch Item) (now : Nat) :
    List (BatchEffect Item) :=
  dispatch.started.map .startHandler
    ++ if dispatch.armed then [.startLinger (now + dispatch.batcher.options.linger.nanos)] else []

namespace Batcher

variable {Item : Type}

/-- Store the outcome of a step that hands out batches. -/
def dispatched {Task Result : Type}
    (moment : Moment)
    (dispatch : Dispatch Item)
    (next : Next Task Result) : Turn (Batcher Item) Task Result (BatchEffect Item) :=
  { state := dispatch.batcher, next, effects := dispatch.effects moment.now }

/-! ## Callers -/

/-- Where a caller stands. -/
inductive Adding (Item : Type)
  | entering (size : Nat) (item : Item)
  /-- The item was accepted under a number. -/
  | awaiting (id : Nat)

/-- A caller no longer waits for its item. -/
def giveUp {Task Effect : Type} (batcher : Batcher Item) (id : Nat) :
    Turn (Batcher Item) Task (Outcome Unit) Effect :=
  { state := batcher.withdraw id, next := .done (.error .canceled) }

/-- Wait for the result of an accepted item; a caller whose context is cancelled gives up. An
item that was taken back has no result to wait for. -/
def awaitAnswer {Effect : Type}
    (moment : Moment)
    (cancelled : Bool)
    (batcher : Batcher Item)
    (id : Nat) : Turn (Batcher Item) Nat (Outcome Unit) Effect :=
  if cancelled && moment.contextFirst then batcher.giveUp id
  else
    match batcher.answer? id with
    | some result => { state := batcher, next := .done result }
    | none =>
        if batcher.withdrawn.contains id then
          { state := batcher, next := .done (.error .batcherShutdown) }
        else if cancelled then batcher.giveUp id
        else { state := batcher, next := .wait id }

def Adding.step (moment : Moment) (cancelled : Bool) (batcher : Batcher Item) :
    Adding Item → Turn (Batcher Item) (Adding Item) (Outcome Unit) (BatchEffect Item)
  | .entering size item =>
      if cancelled then { state := batcher, next := .done (.error .canceled) }
      else
        match batcher.accept size item with
        | .error error => { state := batcher, next := .done (.error error) }
        | .ok (id, dispatch) => dispatched moment dispatch (.continue (.awaiting id))
  | .awaiting id => (batcher.awaitAnswer moment cancelled id).mapTask .awaiting

/-! ## Handlers and timers -/

/-- Where a handler task stands. -/
inductive Handling (Item : Type)
  /-- About to call the handler. -/
  | starting (batch : List (Entry Item))
  | working (batch : List (Entry Item))
  /-- The handler is done; these items have not got its result yet. -/
  | answering (left : List (Entry Item)) (result : Outcome Unit)

/-- The items that a handler task has to take care of. -/
def Handling.batch : Handling Item → List (Entry Item)
  | .starting batch => batch
  | .working batch => batch
  | .answering left _ => left

/-- A call of the handler. -/
structure HandlerCall (Item : Type) where
  batch : List (Entry Item)

/-- The result of a batch whose handler has come to an answer. A handler that ends
abnormally has failed. -/
def resultOf? : Answer (Outcome Unit) → Option (Outcome Unit)
  | .running => none
  | .returned result => some result
  | .panicked _ => some (.error .handlerPanicked)

/-- A handler task gives the next item its result. Once all have theirs, it goes on with the
next batch or stops. -/
def handOver {Task Effect : Type}
    (batcher : Batcher Item)
    (left : List (Entry Item))
    (result : Outcome Unit)
    (answering goOn : List (Entry Item) → Task) : Turn (Batcher Item) Task Unit Effect :=
  match left with
  | entry :: rest =>
      { state := batcher.answer entry.id result, next := .continue (answering rest) }
  | [] =>
      match batcher.nextBatch with
      | (some next, after) => { state := after, next := .continue (goOn next) }
      | (none, after) => { state := after, next := .done () }

def Handling.step (answer : Answer (Outcome Unit)) (batcher : Batcher Item) :
    Handling Item → Turn (Batcher Item) (Handling Item) Unit (HandlerCall Item)
  | .starting batch =>
      { state := batcher, next := .continue (.working batch), effects := [⟨batch⟩] }
  | .working batch =>
      match resultOf? answer with
      | none => { state := batcher, next := .wait (.working batch) }
      | some result => { state := batcher, next := .continue (.answering batch result) }
  | .answering left result => batcher.handOver left result (.answering · result) .starting

def lingerStep (moment : Moment) (batcher : Batcher Item) (wakeAt : Nat) :
    Turn (Batcher Item) Nat Unit (BatchEffect Item) :=
  if moment.now < wakeAt then { state := batcher, next := .wait wakeAt }
  else dispatched moment batcher.lingerEnded (.done ())

/-! ## Flushes -/

/-- Where a flush stands. -/
inductive Flush
  | starting
  /-- About to listen for notices. -/
  | listening
  /-- Listens for other notices than those it has seen, and is about to look at the batcher. -/
  | looking (seen : Nat)
  /-- Waits for another notice than those it has seen. -/
  | waiting (seen : Nat)
  deriving DecidableEq

def Flush.step (moment : Moment) (batcher : Batcher Item) :
    Flush → Turn (Batcher Item) Flush Unit (BatchEffect Item)
  | .starting => dispatched moment batcher.shutdown (.continue .listening)
  | .listening => { state := batcher, next := .continue (.looking batcher.idleNotices) }
  | .looking seen =>
      { state := batcher, next := if batcher.isIdle then .done () else .wait (.waiting seen) }
  | .waiting seen =>
      { state := batcher
        next := if batcher.idleNotices = seen then .wait (.waiting seen) else .continue .listening }

end Batcher
end PubSub
