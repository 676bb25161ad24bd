import Mathlib.Data.List.Induction
import Mathlib.Data.List.Perm.Basic
import PubSub.Proofs.Subscription.Change

/-!
# Moves are chains of changes

Every turn of a task and every other move is a chain of the changes of `Change`. For
acknowledgments it is enough to know that a turn touches nothing else, which `OnAcks` says.
-/

namespace PubSub
namespace Subscription

variable {Number : Type}

@[simp] theorem Session.now_moment (session : Session Number) (finding : Finding) :
    (session.moment finding).now = session.now := rfl

@[simp] theorem Session.contextFirst_moment (session : Session Number) (finding : Finding) :
    (session.moment finding).contextFirst = finding.contextFirst := rfl

@[simp] theorem poppedSince_of_queue_eq
    {before after : Subscription Number}
    (same : after.queue = before.queue) : poppedSince before after = [] := by
  simp [poppedSince, same]

/-! ## What is minor -/

/-- Only a call that is awaited comes to an answer. -/
theorem mem_cameTo {Result : Type}
    {awaited : Option Nat}
    {answer : Answer Result}
    {make : Nat → Record}
    {record : Record}
    (member : record ∈ cameTo awaited answer make) :
    ∃ place, awaited = some place ∧ record = make place := by
  unfold cameTo at member
  split at member
  next => contradiction
  next =>
    obtain ⟨place, found, rfl⟩ := List.mem_map.mp member
    exact ⟨place, by simpa using found, rfl⟩

/-- What a call has come to is minor, unless it has returned messages. -/
theorem isMinor_of_isSilent
    {calls : Retry.Group Nat (List Envelope)}
    {answer : Answer (Except Fault (List Envelope))}
    (silent : calls.IsSilent answer)
    (number : Nat) :
    ∀ record ∈ cameTo calls.awaited? answer (.answered number · answer),
      record.isMinor = true := by
  intro record member
  obtain ⟨place, awaited, rfl⟩ := mem_cameTo member
  have other := silent (by simp [awaited])
  cases answer with
  | running => rfl
  | panicked info => rfl
  | returned result =>
      cases result with
      | ok value => exact absurd rfl (other value)
      | error fault => rfl

theorem isMinor_of_mem_map
    {effects : List Effect}
    (asked : ∀ effect ∈ effects, (Record.asked effect).isMinor = true) :
    ∀ record ∈ effects.map Record.asked, record.isMinor = true := by
  intro record member
  obtain ⟨effect, effect_mem, rfl⟩ := List.mem_map.mp member
  exact asked effect effect_mem

theorem isMinor_of_mem_append
    {happened : List Record}
    {effects : List Effect}
    (minor : ∀ record ∈ happened, record.isMinor = true)
    (asked : ∀ effect ∈ effects, (Record.asked effect).isMinor = true) :
    ∀ record ∈ happened ++ effects.map .asked, record.isMinor = true := by
  intro record member
  rcases List.mem_append.mp member with done | done
  · exact minor record done
  · exact isMinor_of_mem_map asked record done

/-! ## Turns on the acknowledgments -/

/-- A turn touches nothing but the acknowledgments. -/
structure OnAcks {Task Result : Type}
    (before : Subscription Number)
    (turn : Turn (Subscription Number) Task Result Effect) : Prop where
  state : ∃ acks, acks.isSome = before.acks.isSome ∧ turn.state = { before with acks }
  effects : ∀ effect ∈ turn.effects, (Record.asked effect).isMinor = true

/-- A turn that leaves the subscription as it is touches nothing. -/
theorem OnAcks.of_state_eq {Task Result : Type}
    {before : Subscription Number}
    {turn : Turn (Subscription Number) Task Result Effect}
    (state : turn.state = before)
    (effects : ∀ effect ∈ turn.effects, (Record.asked effect).isMinor = true) :
    OnAcks before turn :=
  ⟨⟨before.acks, rfl, state⟩, effects⟩

theorem OnAcks.onAcks {Task : Type}
    {before : Subscription Number}
    {acks : Batcher AckRequest}
    (present : before.acks = some acks)
    (turn : Turn (Batcher AckRequest) Task Unit (BatchEffect AckRequest)) :
    OnAcks before (before.onAcks turn) where
  state := ⟨some turn.state, by rw [present]; rfl, rfl⟩
  effects := by
    intro effect member
    obtain ⟨inner, _, rfl⟩ := List.mem_map.mp member
    rfl

/-- The tasks that are started for the acknowledgments. -/
theorem isAcking_of_mem_startedBy
    {effects : List Effect}
    (minor : ∀ effect ∈ effects, (Record.asked effect).isMinor = true) :
    ∀ activity ∈ startedBy effects, activity.IsAcking := by
  intro activity member
  obtain ⟨effect, asked, started⟩ := List.mem_filterMap.mp member
  have small := minor effect asked
  grind [Record.isMinor, Activity.IsAcking]

/-- A handler that is not about to record a failure touches nothing but the acknowledgments. -/
theorem onAcks_step
    (subscription : Subscription Number)
    (moment : Moment)
    (answer : Answer (Except Fault Unit))
    {handler : Handler}
    (other : ∀ batch error, handler ≠ .failing batch error) :
    OnAcks subscription (handler.step moment answer subscription) := by
  cases handler with
  | announcing batch => exact .of_state_eq rfl (by simp [Handler.step])
  | calling batch calls =>
      unfold Handler.step
      dsimp only
      split
      next => exact .of_state_eq rfl (by simp)
      next => exact .of_state_eq rfl (by simp)
      next => exact .of_state_eq rfl (by simp)
      next => exact .of_state_eq rfl (by simp)
      next => exact .of_state_eq rfl (by simp)
      next error _ =>
        refine .of_state_eq rfl ?_
        cases canceled : error.isCanceled <;> simp [Handler.failed, canceled]
      next => exact .of_state_eq rfl (by simp)
  | failing batch error => exact absurd rfl (other batch error)
  | answering left result =>
      unfold Handler.step Handler.answered
      dsimp only
      split
      next => exact .of_state_eq rfl (by simp)
      next acks present => exact .onAcks present _

/-- What a handler does is minor, unless it records a failure. -/
theorem isMinor_of_mem_handler_records
    {answer : Answer (Except Fault Unit)}
    {handler : Handler}
    (other : ∀ batch error, handler ≠ .failing batch error)
    (next : Next Handler Unit) :
    ∀ record ∈ handler.records answer next, record.isMinor = true := by
  intro record member
  cases handler with
  | announcing batch => simp [Handler.records] at member
  | calling batch calls =>
      rcases List.mem_append.mp member with came | handled
      · obtain ⟨place, _, rfl⟩ := mem_cameTo came
        rfl
      · split at handled
        next => rw [List.mem_singleton.mp handled]; rfl
        next => contradiction
  | failing batch error => exact absurd rfl (other batch error)
  | answering left result =>
      cases next with
      | «continue» later =>
          cases later with
          | announcing batch => rw [List.mem_singleton.mp member]; rfl
          | _ => contradiction
      | _ => contradiction

/-- A turn of a linger timer touches nothing but the acknowledgments. -/
theorem onAcks_lingerStep
    (moment : Moment)
    (subscription : Subscription Number)
    (wakeAt : Nat) : OnAcks subscription (lingerStep moment subscription wakeAt) := by
  unfold lingerStep
  split
  next => exact .of_state_eq rfl (by simp)
  next acks present => exact .onAcks present _

/-- A turn of a flush touches nothing but the acknowledgments. -/
theorem onAcks_flushStep
    (moment : Moment)
    (subscription : Subscription Number)
    (flush : Batcher.Flush) : OnAcks subscription (flushStep moment subscription flush) := by
  unfold flushStep
  split
  next => exact .of_state_eq rfl (by simp)
  next acks present => exact .onAcks present _

variable [Scalar Number]

/-! ## Turns of receivers -/

/-- Choosing the size of a background receive starts one, or changes nothing. -/
theorem prefetch_cases (subscription : Subscription Number) (now : Nat) :
    subscription.prefetch now = (none, subscription) ∨
      ∃ size estimator,
        subscription.receiving = none ∧
          subscription.estimator.wantsPrefetch subscription.queue.length = true ∧
          subscription.estimator.nextSize now subscription.queue.length = (size, estimator) ∧
          subscription.prefetch now =
            (some (subscription.fetches, size),
              { subscription with
                estimator
                receiving := some subscription.fetches
                fetches := subscription.fetches + 1 }) := by
  unfold prefetch
  split
  next wanted =>
    rw [Bool.and_eq_true, Option.isNone_iff_eq_none] at wanted
    exact .inr ⟨_, _, wanted.1, wanted.2, rfl, rfl⟩
  next => exact .inl rfl

/-- What a receiver may change. -/
theorem exists_receive_eq (subscription : Subscription Number) (cancelled : Bool) (now : Nat) :
    ∃ queue unreported receiving fetches estimator,
      (subscription.receive cancelled now).subscription =
        { subscription with queue, unreported, receiving, fetches, estimator } := by
  unfold receive
  split
  next => exact ⟨_, none, _, _, _, rfl⟩
  next =>
    split
    next => exact ⟨_, _, _, _, _, rfl⟩
    next =>
      dsimp only
      unfold takeQueued
      rcases prefetch_cases subscription now with unchanged | ⟨_, estimator, _, _, _, started⟩
      · rw [unchanged]
        split <;> exact ⟨_, _, _, _, _, rfl⟩
      · rw [started]
        split <;> exact ⟨_, _, _, _, _, rfl⟩

attribute [local simp] Session.turn Session.resume startedBy gotten Next.tasks Receiver.records

/-- A receiver takes a message, or finds out what to wait for. What it does then depends on the
subscription that it found, which may have started a background receive since. -/
theorem changes_takeQueued
    {session : Session Number}
    {context : Nat}
    {others : List Activity}
    (split : session.activities.Perm (.receiver context .asking :: others))
    (untroubled : session.subscription.sticky = none)
    (found : Subscription Number)
    (queue : found.queue = session.subscription.queue)
    (acks : found.acks = session.subscription.acks)
    {next : Next Receiver (Outcome Message)}
    {after : Subscription Number}
    {activities : List Activity}
    (next_eq : found.afterReceive (session.subscription.takeQueued session.now).1 = next)
    (after_eq : (session.subscription.takeQueued session.now).2 = after)
    (joined : (next.tasks.map (Activity.receiver context) ++ others).Perm activities) :
    Changes session
      { session with
        subscription := after
        activities
        messages := session.messages ++ gotten next
        records := session.records ++ Receiver.records context found after next } := by
  subst next_eq after_eq
  cases queued : session.subscription.queue with
  | cons envelope rest =>
      have taken := Changes.reorder (.single (.delivered split untroubled queued))
        (by simpa [takeQueued, queued, afterReceive] using joined)
      simpa [takeQueued, queue, queued, afterReceive, wrap, acks, poppedSince] using taken
  | nil =>
      cases inFlight : session.subscription.receiving with
      | some fetch =>
          have waits := Changes.reorder (.single (.waited split inFlight queued))
            (by simpa [takeQueued, queued, inFlight, afterReceive] using joined)
          simpa [takeQueued, queue, queued, inFlight, afterReceive, poppedSince] using waits
      | none =>
          have again := Changes.reorder (.single (.foundEmpty inFlight queued))
            (split.trans (by simpa [takeQueued, queued, inFlight, afterReceive] using joined))
          simpa [takeQueued, queue, queued, inFlight, afterReceive, poppedSince] using again

/-- A receiver that asks takes a message, starts a background receive, or is told an error. -/
theorem changes_asking
    {session : Session Number}
    {context : Nat}
    {others : List Activity}
    (split : session.activities.Perm (.receiver context .asking :: others))
    (finding : Finding) :
    Changes session (session.turn finding others (.receiver context .asking)) := by
  cases sticky : session.subscription.sticky with
  | some error =>
      have told := Relation.ReflTransGen.single (Change.told split sticky)
      simpa [Receiver.step, receive, sticky, fetchEffects, afterReceive] using told
  | none =>
      by_cases cancelled : context ∈ session.cancelled
      · have gone := Relation.ReflTransGen.single (Change.gaveUp split cancelled)
        simpa [Receiver.step, receive, sticky, cancelled, fetchEffects, afterReceive] using gone
      · rcases prefetch_cases session.subscription session.now with
          unchanged | ⟨size, estimator, idle, _, sized, started⟩
        · have taken := changes_takeQueued split sticky session.subscription rfl rfl rfl rfl
            (List.Perm.refl _)
          simpa [Receiver.step, receive, sticky, cancelled, unchanged, fetchEffects] using taken
        · have taken := Relation.ReflTransGen.head (Change.prefetched idle sized sticky)
            (changes_takeQueued (by exact (split.cons _).trans (.swap ..)) (by exact sticky)
              session.subscription (by rfl) (by rfl) rfl rfl List.perm_middle)
          simpa [Receiver.step, receive, sticky, cancelled, started, fetchEffects] using taken

/-- A turn of a receiver. -/
theorem changes_receiver
    {session : Session Number}
    {context : Nat}
    {receiver : Receiver}
    {others : List Activity}
    (split : session.activities.Perm (.receiver context receiver :: others))
    (finding : Finding) :
    Changes session (session.turn finding others (.receiver context receiver)) := by
  cases receiver with
  | asking => exact changes_asking split finding
  | awaiting fetch =>
      by_cases cancelled : context ∈ session.cancelled
      · have gone := Relation.ReflTransGen.single (Change.gaveUp split cancelled)
        cases first : finding.contextFirst with
        | true => simpa [Receiver.step, cancelled, first] using gone
        | false =>
            cases ended : session.subscription.hasEnded fetch with
            | true =>
                have again := Relation.ReflTransGen.single (Change.resumed split ended)
                simpa [Receiver.step, cancelled, first, ended] using again
            | false => simpa [Receiver.step, cancelled, first, ended] using gone
      · cases ended : session.subscription.hasEnded fetch with
        | true =>
            have again := Relation.ReflTransGen.single (Change.resumed split ended)
            simpa [Receiver.step, cancelled, ended] using again
        | false =>
            have waits := Relation.ReflTransGen.single (Change.reordered split)
            simpa [Receiver.step, cancelled, ended] using waits

/-! ## Turns of background receives -/

attribute [local simp] Fetch.step Fetch.records

/-- A turn of a background receive at its driver calls. -/
theorem changes_calling
    {session : Session Number}
    {number : Nat}
    {calls : Retry.Group Nat (List Envelope)}
    {others : List Activity}
    (split : session.activities.Perm (.fetch (.calling number calls) :: others))
    (finding : Finding) :
    Changes session (session.turn finding others (.fetch (.calling number calls))) := by
  have looked := calls.looked_step (fun _ => session.subscription.plan receiveOperation)
    session.subscription.backgroundEnded (session.moment finding) finding.fetched
  generalize stepped : calls.step _ _ _ _ = step at looked
  cases looked with
  | wait same silent =>
      have change := Change.looked split same (isMinor_of_isSilent silent number)
      simpa [stepped] using Relation.ReflTransGen.single change
  | «continue» same silent =>
      have change := Change.looked split same (isMinor_of_isSilent silent number)
      simpa [stepped] using Relation.ReflTransGen.single change
  | @call place requested later same silent =>
      have minor : ∀ record ∈ cameTo calls.awaited? finding.fetched
          (.answered number · finding.fetched) ++ [.asked (.receiveBatch number place requested)],
          record.isMinor = true := by
        simpa [or_imp, forall_and] using isMinor_of_isSilent silent number
      simpa [stepped] using Relation.ReflTransGen.single (Change.looked split same minor)
  | @announce event later same silent =>
      have minor : ∀ record ∈ cameTo calls.awaited? finding.fetched
          (.answered number · finding.fetched) ++ [.asked (.publish event)],
          record.isMinor = true := by
        simpa [or_imp, forall_and] using isMinor_of_isSilent silent number
      simpa [stepped] using Relation.ReflTransGen.single (Change.looked split same minor)
  | returned awaited given unknown values =>
      rw [given] at stepped
      have change := Change.returned split unknown values
      simpa [stepped, cameTo, awaited, given] using Relation.ReflTransGen.single change
  | finish all silent =>
      have came := Change.looked split rfl (isMinor_of_isSilent silent number)
      have changes := Relation.ReflTransGen.head came (.single (.gathered (by exact .refl _) all))
      simpa [stepped] using changes
  | fail canceled silent =>
      have came := Change.looked split rfl (isMinor_of_isSilent silent number)
      have changes := Relation.ReflTransGen.head came
        (.single (.lost (by exact .refl _) (by exact canceled)))
      simpa [stepped] using changes
  | crash unfinished silent =>
      have came := Change.looked split rfl (isMinor_of_isSilent silent number)
      have changes := Relation.ReflTransGen.head came
        (.single (.crashed (by exact .refl _) unfinished))
      simpa [stepped] using changes

omit [Scalar Number] in
/-- What the end of a background receive does to a subscription. -/
theorem exists_fetchEnded_eq
    (subscription : Subscription Number)
    (now : Nat)
    (result : Outcome (List Envelope)) :
    ∃ estimator, subscription.fetchEnded now result =
      { subscription with
        queue := subscription.queue ++ broughtBy result
        sticky := subscription.sticky.or (errorOf? result)
        receiving := none
        estimator } := by
  cases result with
  | ok envelopes =>
      cases envelopes with
      | nil => exact ⟨subscription.estimator, by simp [fetchEnded, storeFetched]⟩
      | cons envelope rest =>
          exact ⟨subscription.estimator.recordArrival now, by simp [fetchEnded, storeFetched]⟩
  | error error =>
      refine ⟨subscription.estimator, ?_⟩
      cases sticky : subscription.sticky <;> simp [fetchEnded, storeFetched, sticky]

/-- A turn of a background receive. -/
theorem changes_fetch
    {session : Session Number}
    {fetch : Fetch}
    {others : List Activity}
    (split : session.activities.Perm (.fetch fetch :: others))
    (finding : Finding) :
    Changes session (session.turn finding others (.fetch fetch)) := by
  cases fetch with
  | calling number calls => exact changes_calling split finding
  | storing number result =>
      obtain ⟨estimator, ended⟩ := exists_fetchEnded_eq session.subscription session.now result
      have change := Change.stored split estimator
      simpa [ended] using Relation.ReflTransGen.single change
  | waking number =>
      have change := Change.woke split
      simpa using Relation.ReflTransGen.single change

/-! ## Acknowledgments -/

/-- A turn that touches nothing but the acknowledgments, after which other tasks that work on
them are left. -/
theorem OnAcks.change {Task Result : Type}
    {session : Session Number}
    {turn : Turn (Subscription Number) Task Result Effect}
    (touches : OnAcks session.subscription turn)
    {gone others : List Activity}
    (split : session.activities.Perm (gone ++ others))
    (gone_acking : ∀ activity ∈ gone, activity.IsAcking)
    {later : List Activity}
    (later_acking : ∀ activity ∈ later, activity.IsAcking)
    (messages : List (Option Message))
    {happened : List Record}
    (minor : ∀ record ∈ happened, record.isMinor = true) :
    Change session
      { session with
        subscription := turn.state
        activities := startedBy turn.effects ++ (later ++ others)
        messages
        records := session.records ++ happened } := by
  obtain ⟨acks, present, state⟩ := touches.state
  rw [state, ← List.append_assoc]
  refine .acked split gone_acking ?_ present minor
  intro activity member
  rcases List.mem_append.mp member with started | goesOn
  · exact isAcking_of_mem_startedBy touches.effects activity started
  · exact later_acking activity goesOn

/-- The same without a task that works on the acknowledgments. -/
theorem OnAcks.change_alone {Task Result : Type}
    {session : Session Number}
    {turn : Turn (Subscription Number) Task Result Effect}
    (touches : OnAcks session.subscription turn)
    (messages : List (Option Message))
    {happened : List Record}
    (minor : ∀ record ∈ happened, record.isMinor = true) :
    Change session
      { session with
        subscription := turn.state
        activities := startedBy turn.effects ++ session.activities
        messages
        records := session.records ++ happened } := by
  have nobody : ∀ activity ∈ ([] : List Activity), activity.IsAcking := by simp
  exact touches.change (List.Perm.refl ([] ++ session.activities)) nobody nobody messages minor

/-- A turn of the handler of a batch of acknowledgments. -/
theorem changes_handler
    {session : Session Number}
    {handler : Handler}
    {others : List Activity}
    (split : session.activities.Perm (.handler handler :: others))
    (finding : Finding) :
    Changes session (session.turn finding others (.handler handler)) := by
  by_cases failing : ∃ batch error, handler = .failing batch error
  · obtain ⟨batch, error, rfl⟩ := failing
    by_cases canceled : error = .canceled
    · subst canceled
      have change := Change.ignored split
      simpa [Handler.step, Handler.recorded, Handler.records] using
        Relation.ReflTransGen.single change
    · have kept : error.isCanceled = false := by
        simpa [← Error.isCanceled_iff] using canceled
      have change := Change.recorded split canceled
      cases sticky : session.subscription.sticky <;>
        simpa [Handler.step, Handler.recorded, Handler.records, kept, recordAckFailure, sticky]
          using Relation.ReflTransGen.single change
  · have other : ∀ batch error, handler ≠ .failing batch error := by
      simpa using failing
    have touches := onAcks_step session.subscription (session.moment finding) finding.settled other
    have gone : ∀ activity ∈ [Activity.handler handler], activity.IsAcking := by
      simpa using .handler handler
    exact .single (touches.change split gone (by simp [Activity.IsAcking.handler])
      session.messages
      (isMinor_of_mem_append (isMinor_of_mem_handler_records other _) touches.effects))

/-- A turn of a linger timer. -/
theorem changes_timer
    {session : Session Number}
    {wakeAt : Nat}
    {others : List Activity}
    (split : session.activities.Perm (.timer wakeAt :: others))
    (finding : Finding) :
    Changes session (session.turn finding others (.timer wakeAt)) := by
  have touches := onAcks_lingerStep (session.moment finding) session.subscription wakeAt
  have gone : ∀ activity ∈ [Activity.timer wakeAt], activity.IsAcking := by
    simpa using .timer wakeAt
  exact .single (touches.change split gone (by simp [Activity.IsAcking.timer])
    session.messages (isMinor_of_mem_map touches.effects))

/-! ## Shutdowns -/

variable {session : Session Number} {context : Nat} {others : List Activity}

/-- The end of a flush, which may have handed out batches, and of the driver calls. -/
theorem changes_endCalls
    {flush : Batcher.Flush}
    (split : session.activities.Perm (.shutdown context (.flushing flush) :: others))
    {Task Result : Type}
    {turn : Turn (Subscription Number) Task Result Effect}
    (touches : OnAcks session.subscription turn) :
    Changes session
      { session with
        subscription := turn.state.endBackground
        activities := startedBy turn.effects ++ .shutdown context .calling :: others
        records := session.records ++ (turn.effects.map .asked ++ [.asked .close]) } := by
  have handed := touches.change_alone session.messages (isMinor_of_mem_map touches.effects)
  have ended := Relation.ReflTransGen.head handed
    (.single (.ended (by exact (split.append_left _).trans List.perm_middle)))
  simpa using Changes.reorder ended List.perm_middle.symm

/-- A turn of a flush that goes on, which may have handed out batches. -/
theorem changes_flushing
    {flush : Batcher.Flush}
    (split : session.activities.Perm (.shutdown context (.flushing flush) :: others))
    {Task Result : Type}
    {turn : Turn (Subscription Number) Task Result Effect}
    (touches : OnAcks session.subscription turn)
    (later : Batcher.Flush) :
    Changes session
      { session with
        subscription := turn.state
        activities := startedBy turn.effects ++ .shutdown context (.flushing later) :: others
        records := session.records ++ turn.effects.map .asked } := by
  have handed := touches.change_alone session.messages (isMinor_of_mem_map touches.effects)
  have went := Relation.ReflTransGen.head handed
    (.single (.flushed (by exact (split.append_left _).trans List.perm_middle) later))
  simpa using Changes.reorder went List.perm_middle.symm

omit [Scalar Number] in
/-- The result of a shutdown leaves alone all but the error that no receiver was told. -/
theorem exists_shutdownResult_eq
    (subscription : Subscription Number)
    (cancelled : Bool)
    (driver : Except Fault Unit) :
    ∃ result unreported, subscription.shutdownResult cancelled driver =
      (result, { subscription with unreported }) := by
  unfold shutdownResult
  split
  next => exact ⟨_, subscription.unreported, rfl⟩
  next => split <;> exact ⟨_, none, rfl⟩

attribute [local simp] closingStep Closing.step Closing.endCalls closable closingRecords

/-- A turn of a shutdown. -/
theorem changes_shutdown
    {closing : Closing}
    (split : session.activities.Perm (.shutdown context closing :: others))
    (finding : Finding) :
    Changes session (session.turn finding others (.shutdown context closing)) := by
  cases closing with
  | begin =>
      by_cases late : session.subscription.sticky = some .subscriptionShutdown
      · have change := Change.refused split late
        simpa [beginShutdown, late] using Relation.ReflTransGen.single change
      · have change := Change.began split late
        simpa [beginShutdown, late] using Relation.ReflTransGen.single change
  | flushing flush =>
      have touches := onAcks_flushStep (session.moment finding) session.subscription flush
      generalize stepped : flushStep _ _ _ = turn at touches
      by_cases gone : context ∈ session.cancelled ∧ finding.contextFirst = true
      · have nothing : OnAcks session.subscription
            ({ state := session.subscription, next := .done () } :
              Turn (Subscription Number) Batcher.Flush Unit Effect) :=
          .of_state_eq rfl (by simp)
        simpa [gone.1, gone.2] using changes_endCalls split nothing
      · cases next : turn.next with
        | done result =>
            simpa [gone, stepped, next] using changes_endCalls split touches
        | «continue» later =>
            simpa [gone, stepped, next] using changes_flushing split touches later
        | wait later =>
            by_cases cancelled : context ∈ session.cancelled
            · have first : finding.contextFirst = false := by simpa [cancelled] using gone
              simpa [first, cancelled, stepped, next] using changes_endCalls split touches
            · simpa [cancelled, stepped, next] using changes_flushing split touches later
  | calling =>
      cases settled : finding.settled with
      | running =>
          simpa [settled] using Relation.ReflTransGen.single (Change.reordered split)
      | panicked info =>
          simpa [settled] using Relation.ReflTransGen.single (Change.left split rfl)
      | returned driver =>
          obtain ⟨result, unreported, told⟩ := exists_shutdownResult_eq session.subscription
            (decide (context ∈ session.cancelled)) driver
          have change := Change.closed split told
          simpa [settled, told] using Relation.ReflTransGen.single change

/-! ## Moves -/

/-- A turn of any task. -/
theorem changes_turn
    {activity : Activity}
    (split : session.activities.Perm (activity :: others))
    (finding : Finding) :
    Changes session (session.turn finding others activity) := by
  cases activity with
  | receiver context receiver => exact changes_receiver split finding
  | fetch fetch => exact changes_fetch split finding
  | handler handler => exact changes_handler split finding
  | timer wakeAt => exact changes_timer split finding
  | shutdown context closing => exact changes_shutdown split finding

/-- Only messages that receivers got have changed. -/
theorem change_messages
    (session : Session Number)
    (messages : List (Option Message))
    {happened : List Record}
    (minor : ∀ record ∈ happened, record.isMinor = true) :
    Change session { session with messages, records := session.records ++ happened } := by
  have nobody : ∀ activity ∈ ([] : List Activity), activity.IsAcking := by simp
  exact .acked (List.Perm.refl ([] ++ session.activities)) nobody nobody rfl minor

/-- A request is handed to the acknowledgments. -/
theorem changes_request (session : Session Number) (request : AckRequest) :
    Changes session (session.request request) := by
  unfold Session.request
  split
  next => exact .refl
  next acks present =>
    split
    next => exact .refl
    next id dispatch accepted =>
      have touches := OnAcks.onAcks present
        (Batcher.dispatched (session.moment {}) dispatch (.done () : Next Empty Unit))
      have entered : ∀ record ∈
          [Record.accepted { id, item := request, size := request.byteSize }],
          record.isMinor = true := by simp
      exact .single (touches.change_alone session.messages
        (isMinor_of_mem_append entered touches.effects))

/-- A message is completed. -/
theorem changes_complete (session : Session Number) (place : Nat) (isAck : Bool) :
    Changes session (session.complete place isAck) := by
  unfold Session.complete
  split
  next message found =>
    have nothing : ∀ record ∈ ([] : List Record), record.isMinor = true := by simp
    have kept := change_messages session
      (session.messages.set place (some (message.complete isAck).2)) nothing
    rw [List.append_nil] at kept
    dsimp only
    split
    next request sent => exact .head kept (changes_request _ request)
    next => exact .single kept
  next => exact .refl

/-- A message is dropped. -/
theorem changes_discard (session : Session Number) (place : Nat) :
    Changes session (session.discard place) := by
  unfold Session.discard
  split
  next message found =>
    refine .single (change_messages session _ ?_)
    cases message.isNeglected <;> simp
  next => exact .refl

/-- Somebody calls. -/
theorem changes_call
    (session : Session Number)
    {caller : Activity}
    (fresh : caller.IsFresh) : Changes session (session.call caller) := by
  unfold Session.call
  split
  next => exact .refl
  next held => exact .single (.arrived fresh (by simpa using held))

/-- Every move is a chain of changes. -/
theorem changes_step (session : Session Number) (move : Move) :
    Changes session (session.step move) := by
  cases move with
  | receive context => exact changes_call session (.receiver context)
  | shutdown context => exact changes_call session (.shutdown context)
  | complete place isAck => exact changes_complete session place isAck
  | discard place => exact changes_discard session place
  | cancel context => exact .single (.cancelled context)
  | abandon place =>
      simp only [Session.step]
      split
      next => exact .refl
      next activity found =>
        obtain ⟨bound, rfl⟩ := List.getElem?_eq_some_iff.mp found
        split
        next leaves => exact .single (.left (List.getElem_cons_eraseIdx_perm bound).symm leaves)
        next => exact .refl
  | drop =>
      simp only [Session.step]
      split
      next => exact .refl
      next unused => exact .single (.dropped (by simpa using unused))
  | elapse nanos => exact .single (.elapsed nanos)
  | turn place finding =>
      simp only [Session.step]
      split
      next => exact .refl
      next activity found =>
        obtain ⟨bound, rfl⟩ := List.getElem?_eq_some_iff.mp found
        exact changes_turn (List.getElem_cons_eraseIdx_perm bound).symm finding

/-! ## Runs -/

/-- A list of moves is a chain of changes. -/
theorem changes_run (session : Session Number) (moves : List Move) :
    Changes session (session.run moves) := by
  induction moves generalizing session with
  | nil => exact .refl
  | cons move later hypothesis =>
      exact (changes_step session move).trans (hypothesis (session.step move))

theorem reached_sessionOf (setup : Setup Number) (moves : List Move) :
    Reached setup (sessionOf setup moves) :=
  changes_run setup.session moves

theorem sessionOf_append_singleton
    (setup : Setup Number)
    (moves : List Move)
    (move : Move) : sessionOf setup (moves ++ [move]) = (sessionOf setup moves).step move :=
  List.foldl_append

/-- What holds at first and survives every move holds after every list of moves. -/
theorem sessionOf_induction
    {holds : Session Number → Prop}
    {setup : Setup Number}
    (first : holds setup.session)
    (next : ∀ (earlier : List Move) (move : Move),
      holds (sessionOf setup earlier) → holds ((sessionOf setup earlier).step move))
    (moves : List Move) : holds (sessionOf setup moves) := by
  induction moves using List.reverseRecOn with
  | nil => exact first
  | append_singleton earlier move hypothesis =>
      rw [sessionOf_append_singleton]
      exact next earlier move hypothesis

end Subscription
end PubSub
