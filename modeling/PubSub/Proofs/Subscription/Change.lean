import Mathlib.Logic.Relation
import PubSub.Proofs.Retry.Groups
import PubSub.Proofs.Subscription.Session

/-!
# What can happen to a session

`Change` lists the small things that can happen to a session, with all that is known when
they happen. A turn may do several of them one after the other: a receiver may start a
background receive before it takes a message. A session is reached if a chain of changes
leads to it, so whatever survives every change holds of every session that is reached.

What happens to the acknowledgments themselves is not looked into: `acked` stands for all of
it.
-/

namespace PubSub
namespace Subscription

variable {Number : Type}

/-- A caller that has just called. -/
inductive Activity.IsFresh : Activity → Prop
  | receiver (context : Nat) : IsFresh (.receiver context .asking)
  | shutdown (context : Nat) : IsFresh (.shutdown context .begin)

/-- A task that works on acknowledgments only. -/
inductive Activity.IsAcking : Activity → Prop
  | handler (handler : Handler) : IsAcking (.handler handler)
  | timer (wakeAt : Nat) : IsAcking (.timer wakeAt)

/-- Whether a record has nothing to do with messages, with the beginning and the end of
background receives, with errors that a shutdown may have to tell, or with the end of the
driver. -/
@[simp] def Record.isMinor : Record → Bool
  | .asked (.startFetch ..) => false
  | .asked .close => false
  | .asked _ => true
  | .answered _ _ (.returned (.ok _)) => false
  | .answered .. => true
  | .accepted _ => true
  | .tookOver _ => true
  | .settled .. => true
  | .handled .. => true
  | .refused .. => true
  | _ => false

/-- The messages that a result brings. -/
@[simp] def broughtBy : Outcome (List Envelope) → List Envelope
  | .ok envelopes => envelopes
  | .error _ => []

/-- The error that a result is. -/
@[simp] def errorOf? {Result : Type} : Outcome Result → Option Error
  | .ok _ => none
  | .error error => some error

/-- A view of the records that shows nothing of what has happened is not changed by it. -/
theorem filterMap_append_of_eq_none {View : Type}
    {view : Record → Option View}
    {happened : List Record}
    (hidden : ∀ record ∈ happened, view record = none)
    (records : List Record) :
    (records ++ happened).filterMap view = records.filterMap view := by
  rw [List.filterMap_append, List.filterMap_eq_nil_iff.mpr hidden, List.append_nil]

/-- A view of the records that shows no minor one is not changed by minor ones. -/
theorem filterMap_append_of_isMinor {View : Type}
    {view : Record → Option View}
    (hidden : ∀ record, record.isMinor = true → view record = none)
    (records : List Record)
    {happened : List Record}
    (minor : ∀ record ∈ happened, record.isMinor = true) :
    (records ++ happened).filterMap view = records.filterMap view :=
  filterMap_append_of_eq_none (fun record member => hidden record (minor record member)) records

/-- A view of the tasks that shows none of those that work on acknowledgments does not change
when others take their place. -/
theorem filterMap_append_of_isAcking {View : Type}
    {view : Activity → Option View}
    (hidden : ∀ activity, activity.IsAcking → view activity = none)
    {gone new : List Activity}
    (gone_acking : ∀ activity ∈ gone, activity.IsAcking)
    (new_acking : ∀ activity ∈ new, activity.IsAcking)
    (others : List Activity) :
    (new ++ others).filterMap view = (gone ++ others).filterMap view := by
  have nothing {acking : List Activity} (all : ∀ activity ∈ acking, activity.IsAcking) :
      acking.filterMap view = [] :=
    List.filterMap_eq_nil_iff.mpr fun activity member => hidden activity (all activity member)
  rw [List.filterMap_append, List.filterMap_append, nothing gone_acking, nothing new_acking]

/-! ## Changes -/

variable [Scalar Number]

/-- Everything that can happen to a session in a small step. -/
inductive Change (session : Session Number) : Session Number → Prop
  -- Receivers
  | prefetched {size : Nat} {estimator : Estimator Number}
      (idle : session.subscription.receiving = none)
      (sized : session.subscription.estimator.nextSize session.now
        session.subscription.queue.length = (size, estimator))
      (untroubled : session.subscription.sticky = none) :
      Change session
        { session with
          subscription :=
            { session.subscription with
              estimator
              receiving := some session.subscription.fetches
              fetches := session.subscription.fetches + 1 }
          activities :=
            .fetch (.ofSizes session.subscription.fetches (session.subscription.requestSizes size))
              :: session.activities
          records := session.records
            ++ [.asked (.publish (sizeEvent size)),
              .asked (.startFetch session.subscription.fetches
                (session.subscription.requestSizes size))] }
  | delivered {context : Nat} {envelope : Envelope} {rest : List Envelope}
      {others : List Activity}
      (split : session.activities.Perm (.receiver context .asking :: others))
      (untroubled : session.subscription.sticky = none)
      (queued : session.subscription.queue = envelope :: rest) :
      Change session
        { session with
          subscription :=
            { session.subscription with
              queue := rest
              estimator := session.subscription.estimator.recordDelivery }
          activities := others
          messages := session.messages ++ [some (session.subscription.wrap envelope)]
          records := session.records
            ++ [.popped envelope,
              .received context (.ok (session.subscription.wrap envelope))] }
  | told {context : Nat} {error : Error} {others : List Activity}
      (split : session.activities.Perm (.receiver context .asking :: others))
      (sticky : session.subscription.sticky = some error) :
      Change session
        { session with
          subscription := { session.subscription with unreported := none }
          activities := others
          records := session.records ++ [.received context (.error error)] }
  | gaveUp {context : Nat} {receiver : Receiver} {others : List Activity}
      (split : session.activities.Perm (.receiver context receiver :: others))
      (cancelled : context ∈ session.cancelled) :
      Change session
        { session with
          activities := others
          records := session.records ++ [.received context (.error .canceled)] }
  | waited {context fetch : Nat} {others : List Activity}
      (split : session.activities.Perm (.receiver context .asking :: others))
      (inFlight : session.subscription.receiving = some fetch)
      (empty : session.subscription.queue = []) :
      Change session
        { session with
          subscription :=
            { session.subscription with
              estimator := session.subscription.estimator.recordEmpty session.now }
          activities := .receiver context (.awaiting fetch) :: others }
  | foundEmpty
      (idle : session.subscription.receiving = none)
      (empty : session.subscription.queue = []) :
      Change session
        { session with
          subscription :=
            { session.subscription with
              estimator := session.subscription.estimator.recordEmpty session.now } }
  | resumed {context fetch : Nat} {others : List Activity}
      (split : session.activities.Perm (.receiver context (.awaiting fetch) :: others))
      (ended : session.subscription.hasEnded fetch = true) :
      Change session { session with activities := .receiver context .asking :: others }
  -- Background receives
  | looked {number : Nat} {calls later : Retry.Group Nat (List Envelope)}
      {others : List Activity} {happened : List Record}
      (split : session.activities.Perm (.fetch (.calling number calls) :: others))
      (same : later.values = calls.values)
      (minor : ∀ record ∈ happened, record.isMinor = true) :
      Change session
        { session with
          activities := .fetch (.calling number later) :: others
          records := session.records ++ happened }
  | returned {number place : Nat} {calls later : Retry.Group Nat (List Envelope)}
      {value : List Envelope} {others : List Activity}
      (split : session.activities.Perm (.fetch (.calling number calls) :: others))
      (unknown : calls.values[place]? = some none)
      (values : later.values = calls.values.set place (some value)) :
      Change session
        { session with
          activities := .fetch (.calling number later) :: others
          records := session.records ++ [.answered number place (.returned (.ok value))] }
  | gathered {number : Nat} {calls : Retry.Group Nat (List Envelope)}
      {values : List (List Envelope)} {others : List Activity}
      (split : session.activities.Perm (.fetch (.calling number calls) :: others))
      (all : calls.values = values.map some) :
      Change session
        { session with
          activities :=
            .fetch (.storing number (session.subscription.checkFetched values.flatten))
              :: others }
  | lost {number : Nat} {calls : Retry.Group Nat (List Envelope)} {error : Error}
      {others : List Activity}
      (split : session.activities.Perm (.fetch (.calling number calls) :: others))
      (canceled : error = .canceled → session.subscription.backgroundEnded = true) :
      Change session
        { session with activities := .fetch (.storing number (.error error)) :: others }
  | crashed {number : Nat} {calls : Retry.Group Nat (List Envelope)} {others : List Activity}
      (split : session.activities.Perm (.fetch (.calling number calls) :: others))
      (unfinished : none ∈ calls.values) :
      Change session
        { session with
          activities := others
          records := session.records ++ [.crashed number] }
  | stored {number : Nat} {result : Outcome (List Envelope)} {others : List Activity}
      (split : session.activities.Perm (.fetch (.storing number result) :: others))
      (estimator : Estimator Number) :
      Change session
        { session with
          subscription :=
            { session.subscription with
              queue := session.subscription.queue ++ broughtBy result
              sticky := session.subscription.sticky.or (errorOf? result)
              receiving := none
              estimator }
          activities := .fetch (.waking number) :: others
          records := session.records ++ [.fetched number result] }
  | woke {number : Nat} {others : List Activity}
      (split : session.activities.Perm (.fetch (.waking number) :: others)) :
      Change session
        { session with
          subscription := session.subscription.wake number
          activities := others }
  -- Acknowledgments
  | acked {acks : Option (Batcher AckRequest)} {messages : List (Option Message)}
      {gone new others : List Activity} {happened : List Record}
      (split : session.activities.Perm (gone ++ others))
      (gone_acking : ∀ activity ∈ gone, activity.IsAcking)
      (new_acking : ∀ activity ∈ new, activity.IsAcking)
      (present : acks.isSome = session.subscription.acks.isSome)
      (minor : ∀ record ∈ happened, record.isMinor = true) :
      Change session
        { session with
          subscription := { session.subscription with acks }
          activities := new ++ others
          messages
          records := session.records ++ happened }
  | recorded {batch : List (Entry AckRequest)} {error : Error} {others : List Activity}
      (split : session.activities.Perm (.handler (.failing batch error) :: others))
      (kept : error ≠ .canceled) :
      Change session
        { session with
          subscription :=
            { session.subscription with
              sticky := session.subscription.sticky.or (some error)
              unreported := some error }
          activities := .handler (.answering batch (.error error)) :: others
          records := session.records ++ [.failed batch error, .handled batch (.error error)] }
  | ignored {batch : List (Entry AckRequest)} {others : List Activity}
      (split : session.activities.Perm (.handler (.failing batch .canceled) :: others)) :
      Change session
        { session with
          activities := .handler (.answering batch (.error .canceled)) :: others
          records :=
            session.records ++ [.failed batch .canceled, .handled batch (.error .canceled)] }
  -- Shutdowns
  | refused {context : Nat} {others : List Activity}
      (split : session.activities.Perm (.shutdown context .begin :: others))
      (late : session.subscription.sticky = some .subscriptionShutdown) :
      Change session
        { session with
          activities := others
          records := session.records ++ [.refused context .subscriptionShutdown] }
  | began {context : Nat} {others : List Activity}
      (split : session.activities.Perm (.shutdown context .begin :: others))
      (first : session.subscription.sticky ≠ some .subscriptionShutdown) :
      Change session
        { session with
          subscription := { session.subscription with sticky := some .subscriptionShutdown }
          activities := .shutdown context (.flushing .starting) :: others }
  | flushed {context : Nat} {flush : Batcher.Flush} {others : List Activity}
      (split : session.activities.Perm (.shutdown context (.flushing flush) :: others))
      (later : Batcher.Flush) :
      Change session
        { session with activities := .shutdown context (.flushing later) :: others }
  | ended {context : Nat} {flush : Batcher.Flush} {others : List Activity}
      (split : session.activities.Perm (.shutdown context (.flushing flush) :: others)) :
      Change session
        { session with
          subscription := session.subscription.endBackground
          activities := .shutdown context .calling :: others
          records := session.records ++ [.asked .close] }
  | closed {context : Nat} {others : List Activity} {cancelled : Bool}
      {driver : Except Fault Unit} {result : Outcome Unit} {unreported : Option Error}
      (split : session.activities.Perm (.shutdown context .calling :: others))
      (told : session.subscription.shutdownResult cancelled driver =
        (result, { session.subscription with unreported })) :
      Change session
        { session with
          subscription := { session.subscription with unreported }
          activities := others
          records := session.records
            ++ [.asked (.publish (shutdownEvent result)), .closed context driver result] }
  -- Surroundings
  | arrived {caller : Activity}
      (fresh : caller.IsFresh)
      (held : session.dropped = false) :
      Change session { session with activities := caller :: session.activities }
  | left {caller : Activity} {others : List Activity}
      (split : session.activities.Perm (caller :: others))
      (leaves : caller.isCaller = true) :
      Change session { session with activities := others }
  | reordered {activities : List Activity} (same : session.activities.Perm activities) :
      Change session { session with activities }
  | cancelled (context : Nat) :
      Change session { session with cancelled := context :: session.cancelled }
  | elapsed (nanos : Nat) : Change session { session with now := session.now + nanos }
  | dropped (unused : ∀ activity ∈ session.activities, activity.isCaller = false) :
      Change session
        { session with
          subscription := session.subscription.endBackground
          dropped := true }

/-- Changes, one after the other. -/
abbrev Changes (before after : Session Number) : Prop := Relation.ReflTransGen Change before after

/-- A session that a new subscription may come to, be it in the middle of a move. -/
abbrev Reached (setup : Setup Number) (session : Session Number) : Prop :=
  Changes setup.session session

/-- What has happened is never forgotten. -/
theorem Change.prefix_records {before after : Session Number} (change : Change before after) :
    before.records <+: after.records := by
  cases change <;> simp

namespace Changes

variable {before after last : Session Number}

/-- The order of the tasks makes no difference. -/
theorem reorder
    (changes : Changes before after)
    {activities : List Activity}
    (same : after.activities.Perm activities) : Changes before { after with activities } :=
  changes.tail (.reordered same)

/-- A property that survives every change survives a chain of them. -/
theorem preserve
    {holds : Session Number → Prop}
    (change : ∀ {before after : Session Number}, Change before after → holds before → holds after)
    (changes : Changes before after)
    (first : holds before) : holds after := by
  induction changes with
  | refl => exact first
  | tail _ last hypothesis => exact change last hypothesis

theorem prefix_records (changes : Changes before after) : before.records <+: after.records := by
  induction changes with
  | refl => exact List.prefix_refl _
  | tail _ last hypothesis => exact hypothesis.trans last.prefix_records

end Changes

/-- What holds at first and survives every change holds of every session that is reached. -/
theorem Reached.induction
    {holds : Session Number → Prop}
    {setup : Setup Number}
    (first : holds setup.session)
    (next : ∀ {before after : Session Number},
      Reached setup before → Change before after → holds before → holds after)
    {session : Session Number}
    (reached : Reached setup session) : holds session := by
  induction reached with
  | refl => exact first
  | tail earlier last hypothesis => exact next earlier last hypothesis

end Subscription
end PubSub
