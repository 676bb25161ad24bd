import PubSub.Proofs.Prefetch.Sizes
import PubSub.Proofs.Subscription.Requesting

/-!
# What background receives depend on

Whether a background receive is started, and how large it is, depends on the queue, on the number
that is in flight and on the estimate. Few turns change any of these: that of a receiver that asks,
which may start a background receive and takes a message, and that of a background receive that
stores its result. `Supply` is what they change, and `Supply.Step` lists how, so what is known
about the queue is followed from move to move with it.
-/

namespace PubSub
namespace Subscription

variable {Number : Type}

/-! ## What background receives depend on -/

/-- What decides when a background receive is started and how large it is, and what became of
those that were. -/
structure Supply (Number : Type) where
  queue : List Envelope
  receiving : Option Nat
  fetches : Nat
  running : Number
  tuning : Tuning Number
  isSingle : Bool
  options : BatchOptions
  /-- The background receives that were started, oldest first, with the sizes of their driver
  calls. -/
  started : List (Nat × List Nat)
  /-- The background receives that ended well with what they have stored, oldest first. -/
  stored : List (Nat × List Envelope)

/-- What is known about background receives from a subscription and what has happened. -/
def supply (subscription : Subscription Number) (records : List Record) : Supply Number where
  queue := subscription.queue
  receiving := subscription.receiving
  fetches := subscription.fetches
  running := subscription.estimator.running
  tuning := subscription.estimator.tuning
  isSingle := subscription.estimator.isSingle
  options := subscription.receiveOptions
  started := records.filterMap Record.started?
  stored := records.filterMap Record.stored?

def Session.supply (session : Session Number) : Supply Number :=
  session.subscription.supply session.records

/-- The tasks whose turns change it: receivers that ask, and background receives that store. -/
inductive Activity.Supplies : Activity → Prop
  | receiver (context : Nat) : Supplies (.receiver context .asking)
  | fetch (number : Nat) (result : Outcome (List Envelope)) :
      Supplies (.fetch (.storing number result))

/-- Nothing of it has changed in a subscription. -/
def Rests (before after : Subscription Number) : Prop :=
  ∃ sticky unreported woken acks backgroundEnded,
    after = { before with sticky, unreported, woken, acks, backgroundEnded }

theorem Rests.refl (subscription : Subscription Number) : subscription.Rests subscription :=
  ⟨_, _, _, _, _, rfl⟩

theorem Rests.trans
    {before middle after : Subscription Number}
    (first : before.Rests middle)
    (second : middle.Rests after) : before.Rests after := by
  obtain ⟨sticky, unreported, woken, acks, backgroundEnded, rfl⟩ := first
  obtain ⟨sticky, unreported, woken, acks, backgroundEnded, rfl⟩ := second
  exact ⟨_, _, _, _, _, rfl⟩

theorem OnAcks.rests {Task Result : Type}
    {before : Subscription Number}
    {turn : Turn (Subscription Number) Task Result Effect}
    (touches : OnAcks before turn) : before.Rests turn.state := by
  obtain ⟨acks, -, state⟩ := touches.state
  exact ⟨_, _, _, _, _, state⟩

theorem rests_endBackground (subscription : Subscription Number) :
    subscription.Rests subscription.endBackground :=
  ⟨_, _, _, _, _, rfl⟩

theorem rests_shutdown
    (subscription : Subscription Number)
    (moment : Moment)
    (cancelled : Bool)
    (answer : Answer (Except Fault Unit))
    (closing : Closing) :
    subscription.Rests (closingStep moment cancelled answer subscription closing).state := by
  cases closing with
  | begin =>
      unfold closingStep Closing.step closable beginShutdown
      dsimp only
      split
      next => exact .refl _
      next ending marked =>
        split at marked
        next => contradiction
        next =>
          cases marked
          exact ⟨_, _, _, _, _, rfl⟩
  | flushing flush =>
      have flushed := (onAcks_flushStep moment subscription flush).rests
      unfold closingStep Closing.step Closing.endCalls closable
      dsimp only
      split
      next => exact rests_endBackground subscription
      next =>
        split
        next => exact flushed.trans (rests_endBackground _)
        next => exact flushed
        next =>
          split
          next => exact flushed.trans (rests_endBackground _)
          next => exact flushed
  | calling =>
      cases answer with
      | running => exact .refl _
      | panicked info => exact .refl _
      | returned driver =>
          obtain ⟨result, unreported, told⟩ :=
            exists_shutdownResult_eq subscription cancelled driver
          simp only [closingStep, Closing.step, closable, told]
          exact ⟨_, _, _, _, _, rfl⟩

variable [Scalar Number]

/-- Turns of other tasks leave it alone. -/
theorem rests_turn
    {session : Session Number}
    {activity : Activity}
    (apart : ¬activity.Supplies)
    (finding : Finding)
    (others : List Activity) :
    session.subscription.Rests (session.turn finding others activity).subscription := by
  cases activity with
  | receiver context receiver =>
      cases receiver with
      | asking => exact absurd (.receiver context) apart
      | awaiting fetch => exact .refl _
  | fetch fetch =>
      cases fetch with
      | calling number calls =>
          simp only [Session.turn, Session.resume, Fetch.step]
          split <;> exact .refl _
      | storing number result => exact absurd (.fetch number result) apart
      | waking number => exact ⟨_, _, _, _, _, rfl⟩
  | handler handler =>
      by_cases failing : ∃ batch error, handler = .failing batch error
      · obtain ⟨batch, error, rfl⟩ := failing
        simp only [Session.turn, Session.resume, Handler.step, Handler.recorded]
        split
        next => exact .refl _
        next => exact ⟨_, _, _, _, _, rfl⟩
      · exact (onAcks_step _ _ _ (by simpa using failing)).rests
  | timer wakeAt => exact (onAcks_lingerStep ..).rests
  | shutdown context closing => exact rests_shutdown ..

/-! ## What a move does to it -/

/-- Whether the queue is short enough to start a background receive. -/
def Supply.isLow (supply : Supply Number) : Bool :=
  Scalar.atMost (Scalar.ofCount supply.queue.length) (supply.running * supply.tuning.prefetchRatio)

/-- What a move may do. -/
inductive Supply.Step (supply : Supply Number) : Supply Number → Prop
  | kept : Step supply supply
  /-- A receiver took the oldest message, if there was one. -/
  | taken : Step supply { supply with queue := supply.queue.tail }
  /-- Before that, the receiver has started a background receive. -/
  | begun {size : Nat} {running : Number}
      (idle : supply.receiving = none)
      (low : supply.isLow = true)
      (chosen : Chosen supply.tuning supply.isSingle supply.running size running) :
      Step supply
        { supply with
          queue := supply.queue.tail
          receiving := some supply.fetches
          fetches := supply.fetches + 1
          running
          started := supply.started
            ++ [(supply.fetches, supply.options.split (max size supply.options.lowerLimit))] }
  /-- The background receive in flight has stored messages. -/
  | stored (number : Nat) (envelopes : List Envelope) (noted : supply.receiving ≠ none) :
      Step supply
        { supply with
          queue := supply.queue ++ envelopes
          receiving := none
          stored := supply.stored ++ [(number, envelopes)] }
  /-- The background receive in flight has come to an error. -/
  | failed (noted : supply.receiving ≠ none) : Step supply { supply with receiving := none }

section Turns

variable {session : Session Number}

omit [Scalar Number] in
/-- What has happened otherwise makes no difference. -/
theorem supply_append
    (subscription : Subscription Number)
    (records : List Record)
    {happened : List Record}
    (silent : ∀ record ∈ happened, record.started? = none ∧ record.stored? = none) :
    subscription.supply (records ++ happened) = subscription.supply records := by
  rw [supply, supply,
    filterMap_append_of_eq_none (fun record member => (silent record member).1) records,
    filterMap_append_of_eq_none (fun record member => (silent record member).2) records]

omit [Scalar Number] in
theorem supply_eq_of_rests
    {before after : Subscription Number}
    (rests : before.Rests after)
    (records : List Record) : after.supply records = before.supply records := by
  obtain ⟨_, _, _, _, _, rfl⟩ := rests
  rfl

/-- Choosing the size of a background receive leaves the queue alone. -/
theorem queue_prefetch (subscription : Subscription Number) (now : Nat) :
    (subscription.prefetch now).2.queue = subscription.queue := by
  rcases prefetch_cases subscription now with unchanged | ⟨_, _, _, _, _, started⟩
  · rw [unchanged]
  · rw [started]

omit [Scalar Number] in
/-- A receiver takes what is queued. -/
theorem supply_takeQueued (subscription : Subscription Number) (now : Nat) (records : List Record) :
    (subscription.takeQueued now).2.supply records =
      { subscription.supply records with queue := subscription.queue.tail } := by
  unfold takeQueued
  split
  next envelope rest queued => simp [supply, queued, Estimator.recordDelivery]
  next empty =>
    obtain ⟨stop, same⟩ := subscription.estimator.exists_recordEmpty_eq now
    simp [supply, empty, same]

/-- A turn of a receiver that asks. -/
theorem step_asking (finding : Finding) (others : List Activity) (context : Nat) :
    session.supply.Step (session.turn finding others (.receiver context .asking)).supply := by
  have answered (before after : Subscription Number) (next : Next Receiver (Outcome Message)) :
      ∀ record ∈ Receiver.records context before after next,
        record.started? = none ∧ record.stored? = none := by
    intro record member
    rcases List.mem_append.mp member with popped | received
    · obtain ⟨envelope, -, rfl⟩ := List.mem_map.mp popped
      exact ⟨rfl, rfl⟩
    · split at received
      next =>
        rw [List.mem_singleton.mp received]
        exact ⟨rfl, rfl⟩
      next => contradiction
  dsimp only [Session.supply, Session.turn, Session.resume, Receiver.step, Session.now_moment]
  rw [← List.append_assoc, supply_append _ _ (answered _ _ _), receive]
  split
  next error sticky => simpa [fetchEffects] using .kept
  next untroubled =>
    split
    next cancelled => simpa [fetchEffects] using .kept
    next =>
      dsimp only
      rw [supply_takeQueued]
      rcases prefetch_cases session.subscription session.now with
        unchanged | ⟨size, estimator, idle, low, sized, started⟩
      · simpa [unchanged, fetchEffects] using .taken
      · obtain ⟨chosenSize, running, start, stop, count, same, chosen⟩ :=
          session.subscription.estimator.exists_nextSize_eq session.now
            session.subscription.queue.length
        cases sized.symm.trans same
        have step : session.supply.Step _ := .begun idle low chosen
        simpa [started, fetchEffects, Session.supply, supply, requestSizes,
          List.filterMap_cons] using step

/-- A turn of a background receive that stores its result. -/
theorem step_storing
    {number : Nat}
    {result : Outcome (List Envelope)}
    (noted : session.subscription.receiving ≠ none)
    (finding : Finding)
    (others : List Activity) :
    session.supply.Step (session.turn finding others (.fetch (.storing number result))).supply := by
  have step : session.supply.Step
      ((session.subscription.fetchEnded session.now result).supply
        (session.records ++ [.fetched number result])) := by
    cases result with
    | error error =>
        have same : (session.subscription.fetchEnded session.now (.error error)).supply
            (session.records ++ [.fetched number (.error error)]) =
              { session.supply with receiving := none } := by
          cases sticky : session.subscription.sticky <;>
            simp [fetchEnded, storeFetched, sticky, Session.supply, supply]
        rw [same]
        exact .failed noted
    | ok envelopes =>
        have same : (session.subscription.fetchEnded session.now (.ok envelopes)).supply
            (session.records ++ [.fetched number (.ok envelopes)]) =
              { session.supply with
                queue := session.supply.queue ++ envelopes
                receiving := none
                stored := session.supply.stored ++ [(number, envelopes)] } := by
          cases envelopes with
          | nil => simp [fetchEnded, storeFetched, Session.supply, supply]
          | cons envelope rest =>
              obtain ⟨start, arrived⟩ :=
                session.subscription.estimator.exists_recordArrival_eq session.now
              simp [fetchEnded, storeFetched, Session.supply, supply, arrived]
        rw [same]
        exact .stored number envelopes noted
  simpa [Session.turn, Session.resume, Session.supply, Fetch.step, Fetch.records] using step

omit [Scalar Number] in
/-- No other task has anything to record about background receives that are started or stored. -/
theorem silent_of_records
    {finding : Finding}
    {activity : Activity}
    {record : Record}
    (apart : ¬activity.Supplies)
    (records : Records session finding activity record) :
    record.started? = none ∧ record.stored? = none := by
  cases records with
  | starting => exact absurd (.receiver _) apart
  | fetched => exact absurd (.fetch _ _) apart
  | _ => exact ⟨rfl, rfl⟩

omit [Scalar Number] in
theorem rests_request (session : Session Number) (request : AckRequest) :
    session.subscription.Rests (session.request request).subscription := by
  unfold Session.request
  split
  next => exact .refl _
  next acks present =>
    split
    next => exact .refl _
    next => exact (OnAcks.onAcks present _).rests

/-- A move that is no turn leaves it alone. -/
theorem rests_step
    {move : Move}
    (still : ∀ place finding, move ≠ .turn place finding) :
    session.subscription.Rests (session.step move).subscription := by
  cases move with
  | turn place finding => exact absurd rfl (still place finding)
  | complete place isAck =>
      rw [Session.step, Session.complete]
      split
      next =>
        dsimp only
        split
        next request _ => exact rests_request _ request
        next => exact .refl _
      next => exact .refl _
  | drop =>
      rw [Session.step]
      split
      next => exact .refl _
      next => exact rests_endBackground _
  | receive context | shutdown context =>
      rw [Session.step, Session.call]
      split <;> exact .refl _
  | discard place =>
      rw [Session.step, Session.discard]
      split <;> exact .refl _
  | abandon place =>
      rw [Session.step]
      split
      next => exact .refl _
      next => split <;> exact .refl _
  | cancel context | elapse nanos => exact .refl _

omit [Scalar Number] in
/-- A background receive that is about to store its result is the one in flight. -/
theorem Tracked.receiving_of_storing
    (tracked : Tracked session)
    {number : Nat}
    {result : Outcome (List Envelope)}
    (present : .fetch (.storing number result) ∈ session.activities) :
    session.subscription.receiving ≠ none := by
  have inFlight : number ∈ session.inFlight := List.mem_filterMap.mpr ⟨_, present, rfl⟩
  have noted := tracked.receiving.mem_iff.mp (List.mem_append_left _ inFlight)
  rw [Option.mem_toList.mp noted]
  exact Option.some_ne_none number

/-- Every move is one of the steps. -/
theorem supply_step (tracked : Tracked session) (move : Move) :
    session.supply.Step (session.step move).supply := by
  have kept {happened : List Record}
      (rests : session.subscription.Rests (session.step move).subscription)
      (records : (session.step move).records = session.records ++ happened)
      (silent : ∀ record ∈ happened, record.started? = none ∧ record.stored? = none) :
      session.supply.Step (session.step move).supply := by
    rw [Session.supply, Session.supply, records, supply_append _ _ silent, supply_eq_of_rests rests]
    exact .kept
  by_cases still : ∀ place finding, move ≠ .turn place finding
  · obtain ⟨happened, records, known⟩ := exists_recorded_step session move
    refine kept (rests_step still) records fun record member => ?_
    cases known record member with
    | turned taken => exact absurd taken (still _ _)
    | _ => exact ⟨rfl, rfl⟩
  · obtain ⟨place, finding, rfl⟩ : ∃ place finding, move = .turn place finding := by
      simpa using still
    rw [Session.step] at kept ⊢
    split
    next => exact .kept
    next activity found =>
      by_cases supplies : activity.Supplies
      · cases supplies with
        | receiver context => exact step_asking finding _ context
        | fetch number result =>
            exact step_storing (tracked.receiving_of_storing (List.mem_of_getElem? found)) finding _
      · obtain ⟨happened, records, known⟩ :=
          exists_records_turn session finding (session.activities.eraseIdx place) activity
        simp only [found] at kept
        exact kept (rests_turn supplies finding _) records fun record member =>
          silent_of_records supplies (known record member)

end Turns

/-! ## What is fixed, and what was started -/

/-- What is not measured is as it was set up, and the background receives that were started have
numbers one after the other and sizes that the estimate may come to. -/
structure Supply.Fits (setup : Setup Number) (supply : Supply Number) : Prop where
  tuning : supply.tuning = setup.tuning
  isSingle : supply.isSingle = setup.receiving.isSingle
  options : supply.options = setup.receiving
  numbers : supply.started.map Prod.fst = List.range supply.fetches
  sizes : ∀ entry ∈ supply.started, ∃ running size later,
    Chosen setup.tuning setup.receiving.isSingle running size later ∧
      entry.2 = setup.receiving.split (max size setup.receiving.lowerLimit)

namespace Supply.Fits

variable {setup : Setup Number}

theorem create (setup : Setup Number) : setup.session.supply.Fits setup where
  tuning := rfl
  isSingle := rfl
  options := rfl
  numbers := rfl
  sizes entry member := by contradiction

theorem step
    {supply later : Supply Number}
    (fits : supply.Fits setup)
    (step : supply.Step later) : later.Fits setup := by
  cases step with
  | kept | taken | stored | failed =>
      exact ⟨fits.tuning, fits.isSingle, fits.options, fits.numbers, fits.sizes⟩
  | begun idle low chosen =>
      refine ⟨fits.tuning, fits.isSingle, fits.options, ?numbers, fun entry member => ?sizes⟩
      case numbers => simp [fits.numbers, List.range_succ]
      case sizes =>
        rcases List.mem_append.mp member with earlier | new
        · exact fits.sizes entry earlier
        · rw [fits.tuning, fits.isSingle] at chosen
          rw [List.mem_singleton.mp new, fits.options]
          exact ⟨_, _, _, chosen, rfl⟩

/-- No two background receives have the same number. -/
theorem nodup_started {supply : Supply Number} (fits : supply.Fits setup) :
    (supply.started.map Prod.fst).Nodup := by
  rw [fits.numbers]
  exact List.nodup_range

end Supply.Fits

theorem supply_append_singleton (setup : Setup Number) (moves : List Move) (move : Move) :
    (sessionOf setup moves).supply.Step (sessionOf setup (moves ++ [move])).supply := by
  rw [sessionOf_append_singleton]
  exact supply_step (tracked_of_reached (reached_sessionOf setup moves)) move

theorem fits_sessionOf (setup : Setup Number) (moves : List Move) :
    (sessionOf setup moves).supply.Fits setup := by
  induction moves using List.reverseRecOn with
  | nil => exact .create setup
  | append_singleton moves move hypothesis =>
      exact hypothesis.step (supply_append_singleton setup moves move)

end Subscription
end PubSub
