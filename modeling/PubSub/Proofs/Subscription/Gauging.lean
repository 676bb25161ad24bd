import Mathlib.Data.List.DropRight
import PubSub.Proofs.Subscription.Supply

/-!
# What a measurement depends on

The records of a session have no times. `timelineOf` puts one to each, so that the deliveries an
estimate is made from can be compared with the window that they are divided by.

`Chronicle` is what a measurement depends on, with all that has happened. Every move is a chain of
the small steps of `Chronicle.Step`, so what is known about a measurement is followed from step to
step, without the other tasks. `Gauge` forgets what happened before a size was chosen last.
-/

namespace PubSub
namespace Subscription

variable {Number : Type}

/-! ## Times -/

/-- Records with the time at which they were made. -/
def stamped (now : Nat) (records : List Record) : List (Nat × Record) :=
  records.map fun record => (now, record)

@[simp] theorem stamped_append (now : Nat) (first second : List Record) :
    stamped now (first ++ second) = stamped now first ++ stamped now second :=
  List.map_append

/-- The times at which messages left the queue. -/
def deliveries (timeline : List (Nat × Record)) : List Nat :=
  timeline.filterMap fun entry => entry.2.popped?.map fun _ => entry.1

@[simp] theorem deliveries_nil : deliveries [] = [] := rfl

@[simp] theorem deliveries_append (first second : List (Nat × Record)) :
    deliveries (first ++ second) = deliveries first ++ deliveries second :=
  List.filterMap_append

@[simp] theorem deliveries_cons_popped
    (time : Nat)
    (envelope : Envelope)
    (later : List (Nat × Record)) :
    deliveries ((time, .popped envelope) :: later) = time :: deliveries later := rfl

@[simp] theorem deliveries_cons_fetched
    (time number : Nat)
    (result : Outcome (List Envelope))
    (later : List (Nat × Record)) :
    deliveries ((time, .fetched number result) :: later) = deliveries later := rfl

theorem deliveries_singleton_of_silent
    (time : Nat)
    {record : Record}
    (silent : record.popped? = none) : deliveries [(time, record)] = [] := by
  rw [deliveries, List.filterMap_cons_none (by rw [silent, Option.map_none]), List.filterMap_nil]

/-- What has happened since the size of a background receive was chosen last. -/
def sinceSized (timeline : List (Nat × Record)) : List (Nat × Record) :=
  timeline.rtakeWhile fun entry => entry.2.started?.isNone

theorem sinceSized_append_stamped
    (timeline : List (Nat × Record))
    (now : Nat)
    {records : List Record}
    (silent : ∀ record ∈ records, record.started? = none) :
    sinceSized (timeline ++ stamped now records) = sinceSized timeline ++ stamped now records := by
  have kept : ∀ entry ∈ (stamped now records).reverse, entry.2.started?.isNone = true := by
    intro entry member
    obtain ⟨record, among, rfl⟩ := List.mem_map.mp (List.mem_reverse.mp member)
    exact Option.isNone_iff_eq_none.mpr (silent record among)
  rw [sinceSized, sinceSized, List.rtakeWhile, List.reverse_append,
    List.takeWhile_append_of_pos kept, List.reverse_append, List.reverse_reverse, List.rtakeWhile]

theorem sinceSized_append_started
    (timeline : List (Nat × Record))
    (now : Nat)
    (records : List Record)
    (number : Nat)
    (sizes : List Nat) :
    sinceSized (timeline ++ stamped now (records ++ [.asked (.startFetch number sizes)])) = [] := by
  rw [stamped_append, ← List.append_assoc]
  exact List.rtakeWhile_concat_neg _ _ _ Bool.false_ne_true

namespace Session

variable [Scalar Number]

/-- What a move adds to the records, with the time at which it does. -/
def added (session : Session Number) (move : Move) : List (Nat × Record) :=
  stamped session.now ((session.step move).records.drop session.records.length)

/-- What moves add to the records, oldest first. -/
def timeline (session : Session Number) : List Move → List (Nat × Record)
  | [] => []
  | move :: moves => session.added move ++ (session.step move).timeline moves

theorem added_of_records_eq
    {session : Session Number}
    {move : Move}
    {happened : List Record}
    (records : (session.step move).records = session.records ++ happened) :
    session.added move = stamped session.now happened := by
  rw [added, records, List.drop_left]

theorem timeline_append_singleton (session : Session Number) (moves : List Move) (move : Move) :
    session.timeline (moves ++ [move]) =
      session.timeline moves ++ (session.run moves).added move := by
  induction moves generalizing session with
  | nil => simp [timeline, run]
  | cons first moves hypothesis =>
      rw [List.cons_append, timeline, hypothesis, timeline, List.append_assoc]
      rfl

end Session

/-- What has happened in a session of a new subscription, with times, oldest first. -/
def timelineOf [Scalar Number] (setup : Setup Number) (moves : List Move) : List (Nat × Record) :=
  setup.session.timeline moves

/-! ## What a measurement depends on -/

/-- What a measurement depends on. -/
structure Gauge (Number : Type) where
  estimator : Estimator Number
  queue : List Envelope
  now : Nat
  /-- What has happened since a size was chosen last. -/
  recent : List (Nat × Record)

def gauge (subscription : Subscription Number) (now : Nat) (timeline : List (Nat × Record)) :
    Gauge Number where
  estimator := subscription.estimator
  queue := subscription.queue
  now := now
  recent := sinceSized timeline

/-- Whether a record makes no difference to a measurement. -/
def Record.IsNeutral (record : Record) : Prop := record.started? = none ∧ record.popped? = none

variable [Scalar Number]

/-- What a move may do, in small steps. -/
inductive Gauge.Step (gauge : Gauge Number) : Gauge Number → Prop
  | passed (nanos : Nat) : Step gauge { gauge with now := gauge.now + nanos }
  | noted {record : Record} (silent : record.IsNeutral) :
      Step gauge { gauge with recent := gauge.recent ++ [(gauge.now, record)] }
  /-- A size was chosen. -/
  | sized :
      Step gauge
        { gauge with
          estimator := (gauge.estimator.nextSize gauge.now gauge.queue.length).2
          recent := [] }
  | taken {envelope : Envelope} {rest : List Envelope} (queued : gauge.queue = envelope :: rest) :
      Step gauge
        { gauge with
          estimator := gauge.estimator.recordDelivery
          queue := rest
          recent := gauge.recent ++ [(gauge.now, .popped envelope)] }
  | foundEmpty (empty : gauge.queue = []) :
      Step gauge { gauge with estimator := gauge.estimator.recordEmpty gauge.now }
  /-- Messages arrived. -/
  | stored (number : Nat) (envelope : Envelope) (rest : List Envelope) :
      Step gauge
        { gauge with
          estimator := gauge.estimator.recordArrival gauge.now
          queue := gauge.queue ++ envelope :: rest
          recent := gauge.recent ++ [(gauge.now, .fetched number (.ok (envelope :: rest)))] }

abbrev Gauge.Steps (before after : Gauge Number) : Prop :=
  Relation.ReflTransGen Gauge.Step before after

/-! ## All that has happened -/

/-- The messages that a record brings to the queue. -/
def Record.arrived : Record → List Envelope
  | .fetched _ result => broughtBy result
  | _ => []

/-- Whether a record makes no difference to a measurement or to the queue. -/
def Record.IsIncidental (record : Record) : Prop := record.IsNeutral ∧ record.arrived = []

/-- What a measurement depends on, with all that has happened. -/
structure Chronicle (Number : Type) where
  estimator : Estimator Number
  queue : List Envelope
  now : Nat
  /-- What has happened, with times, oldest first. -/
  timeline : List (Nat × Record)

def chronicle
    (subscription : Subscription Number)
    (now : Nat)
    (timeline : List (Nat × Record)) : Chronicle Number where
  estimator := subscription.estimator
  queue := subscription.queue
  now := now
  timeline := timeline

omit [Scalar Number] in
theorem Rests.chronicle_eq
    {before after : Subscription Number}
    (rests : before.Rests after)
    (now : Nat)
    (timeline : List (Nat × Record)) :
    after.chronicle now timeline = before.chronicle now timeline := by
  obtain ⟨_, _, _, _, _, rfl⟩ := rests
  rfl

/-- What a move may do, in small steps. -/
inductive Chronicle.Step (chronicle : Chronicle Number) : Chronicle Number → Prop
  | passed (nanos : Nat) : Step chronicle { chronicle with now := chronicle.now + nanos }
  | noted {record : Record} (silent : record.IsIncidental) :
      Step chronicle
        { chronicle with timeline := chronicle.timeline ++ [(chronicle.now, record)] }
  /-- A size was chosen. -/
  | sized (number : Nat) (sizes : List Nat) :
      Step chronicle
        { chronicle with
          estimator := (chronicle.estimator.nextSize chronicle.now chronicle.queue.length).2
          timeline := chronicle.timeline ++
            [(chronicle.now, .asked (.startFetch number sizes))] }
  | taken {envelope : Envelope} {rest : List Envelope}
      (queued : chronicle.queue = envelope :: rest) :
      Step chronicle
        { chronicle with
          estimator := chronicle.estimator.recordDelivery
          queue := rest
          timeline := chronicle.timeline ++ [(chronicle.now, .popped envelope)] }
  | foundEmpty (empty : chronicle.queue = []) :
      Step chronicle
        { chronicle with estimator := chronicle.estimator.recordEmpty chronicle.now }
  /-- Messages arrived. -/
  | stored (number : Nat) (envelope : Envelope) (rest : List Envelope) :
      Step chronicle
        { chronicle with
          estimator := chronicle.estimator.recordArrival chronicle.now
          queue := chronicle.queue ++ envelope :: rest
          timeline := chronicle.timeline ++
            [(chronicle.now, .fetched number (.ok (envelope :: rest)))] }

abbrev Chronicle.Steps (before after : Chronicle Number) : Prop :=
  Relation.ReflTransGen Chronicle.Step before after

/-- A chronicle without what happened before a size was chosen last. -/
def Chronicle.gauge (chronicle : Chronicle Number) : Gauge Number where
  estimator := chronicle.estimator
  queue := chronicle.queue
  now := chronicle.now
  recent := sinceSized chronicle.timeline

omit [Scalar Number] in
theorem Chronicle.recent_append
    (chronicle : Chronicle Number)
    (record : Record)
    (silent : record.started? = none) :
    sinceSized (chronicle.timeline ++ [(chronicle.now, record)]) =
      chronicle.gauge.recent ++ [(chronicle.now, record)] :=
  sinceSized_append_stamped chronicle.timeline chronicle.now
    (List.forall_mem_singleton.mpr silent)

theorem Chronicle.Step.gauge
    {before after : Chronicle Number}
    (step : before.Step after) : before.gauge.Step after.gauge := by
  cases step with
  | passed nanos => exact .passed nanos
  | noted silent =>
      simp only [Chronicle.gauge, before.recent_append _ silent.1.1]
      exact .noted silent.1
  | sized number sizes =>
      have forgotten : sinceSized (before.timeline ++
          [(before.now, .asked (.startFetch number sizes))]) = [] :=
        sinceSized_append_started before.timeline before.now [] number sizes
      simp only [Chronicle.gauge, forgotten]
      exact .sized
  | @taken envelope rest queued =>
      have extended := before.recent_append (.popped envelope) rfl
      simp only [Chronicle.gauge, extended]
      exact .taken queued
  | foundEmpty empty => exact .foundEmpty empty
  | stored number envelope rest =>
      have extended := before.recent_append (.fetched number (.ok (envelope :: rest))) rfl
      simp only [Chronicle.gauge, extended]
      exact .stored number envelope rest

/-! ## Moves are chains of these steps -/

section Moves

variable {session : Session Number}

theorem steps_silent
    (subscription : Subscription Number)
    (now : Nat)
    (timeline : List (Nat × Record))
    {records : List Record}
    (silent : ∀ record ∈ records, record.IsIncidental) :
    (subscription.chronicle now timeline).Steps
      (subscription.chronicle now (timeline ++ stamped now records)) := by
  induction records using List.reverseRecOn with
  | nil =>
      rw [stamped, List.map_nil, List.append_nil]
  | append_singleton records record hypothesis =>
      obtain ⟨earlier, last⟩ := List.forall_mem_append.mp silent
      have next : (subscription.chronicle now (timeline ++ stamped now records)).Step _ :=
        .noted (last record (List.mem_singleton.mpr rfl))
      rw [stamped_append, ← List.append_assoc]
      exact (hypothesis earlier).tail next

/-- What leaves the subscription alone and records nothing that matters. -/
theorem steps_of_rests
    {before after : Subscription Number}
    (rests : before.Rests after)
    (now : Nat)
    (timeline : List (Nat × Record))
    {records : List Record}
    (silent : ∀ record ∈ records, record.IsIncidental) :
    (before.chronicle now timeline).Steps
      (after.chronicle now (timeline ++ stamped now records)) := by
  rw [rests.chronicle_eq]
  exact steps_silent before now timeline silent

theorem steps_prefetch
    (subscription : Subscription Number)
    (now : Nat)
    (timeline : List (Nat × Record)) :
    (subscription.chronicle now timeline).Steps
      ((subscription.prefetch now).2.chronicle now
        (timeline ++ stamped now
          ((subscription.fetchEffects (subscription.prefetch now).1).map .asked))) := by
  rcases prefetch_cases subscription now with unchanged | ⟨size, estimator, -, -, sized, started⟩
  · rw [unchanged]
    exact steps_silent _ _ _ (by simp [fetchEffects])
  · have announced : (subscription.chronicle now timeline).Steps
        (subscription.chronicle now
          (timeline ++ stamped now [.asked (.publish (sizeEvent size))])) :=
      steps_silent _ _ _ fun record member => by
        rw [List.mem_singleton.mp member]
        exact ⟨⟨rfl, rfl⟩, rfl⟩
    have chosen : (subscription.chronicle now
        (timeline ++ stamped now [.asked (.publish (sizeEvent size))])).Step _ :=
      .sized subscription.fetches (subscription.requestSizes size)
    refine announced.tail ?_
    rw [started]
    simpa [chronicle, fetchEffects, stamped, sized] using chosen

theorem steps_takeQueued
    (subscription : Subscription Number)
    (now : Nat)
    (timeline : List (Nat × Record)) :
    (subscription.chronicle now timeline).Steps
      ((subscription.takeQueued now).2.chronicle now
        (timeline ++ stamped now
          ((poppedSince subscription (subscription.takeQueued now).2).map .popped))) := by
  unfold takeQueued
  split
  next envelope rest queued =>
    have step : (subscription.chronicle now timeline).Step _ := .taken queued
    have left : poppedSince subscription { subscription with
        queue := rest, estimator := subscription.estimator.recordDelivery } = [envelope] := by
      simp [poppedSince, queued]
    dsimp only
    rw [left]
    exact .single step
  next empty =>
    have left : poppedSince subscription
        { subscription with estimator := subscription.estimator.recordEmpty now } = [] :=
      poppedSince_of_queue_eq rfl
    dsimp only
    rw [left, List.map_nil, stamped, List.map_nil, List.append_nil]
    exact .single (.foundEmpty empty)

omit [Scalar Number] in
/-- Besides the messages that it took, a receiver records nothing that matters. -/
theorem exists_records_eq
    (context : Nat)
    (before after : Subscription Number)
    (next : Next Receiver (Outcome Message)) :
    ∃ answered,
      Receiver.records context before after next =
        (poppedSince before after).map .popped ++ answered ∧
      ∀ record ∈ answered, record.IsIncidental := by
  refine ⟨_, rfl, fun record member => ?_⟩
  split at member
  next =>
    rw [List.mem_singleton.mp member]
    exact ⟨⟨rfl, rfl⟩, rfl⟩
  next => contradiction

/-- A turn of a receiver that asks. -/
theorem steps_asking
    (session : Session Number)
    (finding : Finding)
    (others : List Activity)
    (context : Nat)
    (timeline : List (Nat × Record)) :
    ∃ happened,
      (session.turn finding others (.receiver context .asking)).records =
        session.records ++ happened ∧
      (session.subscription.chronicle session.now timeline).Steps
        ((session.turn finding others (.receiver context .asking)).subscription.chronicle
          session.now (timeline ++ stamped session.now happened)) := by
  refine ⟨_, rfl, ?_⟩
  have untouched {after : Subscription Number} (rests : session.subscription.Rests after) :
      (session.subscription.chronicle session.now timeline).Steps
        (after.chronicle session.now
          (timeline
            ++ stamped session.now ((session.subscription.fetchEffects none).map .asked)
            ++ stamped session.now ((poppedSince session.subscription after).map .popped))) := by
    have queue : after.queue = session.subscription.queue := by
      obtain ⟨_, _, _, _, _, rfl⟩ := rests
      rfl
    simpa [poppedSince_of_queue_eq queue, fetchEffects, stamped, rests.chronicle_eq] using .refl
  dsimp only [Session.turn, Session.resume, Receiver.step, Session.now_moment]
  obtain ⟨answered, records, silent⟩ := exists_records_eq context session.subscription
    (session.subscription.receive (session.cancelled.contains context) session.now).subscription
    (session.subscription.afterReceive
      (session.subscription.receive (session.cancelled.contains context) session.now).move)
  rw [records, stamped_append, stamped_append, ← List.append_assoc, ← List.append_assoc]
  refine Relation.ReflTransGen.trans ?_ (steps_silent _ _ _ silent)
  rw [receive]
  split
  next error sticky => exact untouched ⟨_, _, _, _, _, rfl⟩
  next untroubled =>
    split
    next cancelled => exact untouched (.refl _)
    next =>
      have left (after : Subscription Number) :
          poppedSince session.subscription after =
            poppedSince (session.subscription.prefetch session.now).2 after := by
        rw [poppedSince, poppedSince, queue_prefetch]
      dsimp only
      rw [left]
      exact (steps_prefetch _ _ _).trans (steps_takeQueued _ _ _)

omit [Scalar Number] in
/-- A background receive that comes to an error stores nothing. -/
theorem chronicle_fetchEnded_error
    (subscription : Subscription Number)
    (now : Nat)
    (error : Error)
    (timeline : List (Nat × Record)) :
    (subscription.fetchEnded now (.error error)).chronicle now timeline =
      subscription.chronicle now timeline := by
  unfold fetchEnded storeFetched
  dsimp only
  split <;> rfl

/-- A turn of a background receive that stores its result. -/
theorem steps_storing
    (session : Session Number)
    (finding : Finding)
    (others : List Activity)
    (number : Nat)
    (result : Outcome (List Envelope))
    (timeline : List (Nat × Record)) :
    (session.subscription.chronicle session.now timeline).Steps
      ((session.turn finding others (.fetch (.storing number result))).subscription.chronicle
        session.now (timeline ++ stamped session.now [.fetched number result])) := by
  have noted (nothing : broughtBy result = []) :
      (session.subscription.chronicle session.now timeline).Steps
        (session.subscription.chronicle session.now
          (timeline ++ stamped session.now [.fetched number result])) :=
    steps_silent _ _ _ fun record member => by
      rw [List.mem_singleton.mp member]
      exact ⟨⟨rfl, rfl⟩, nothing⟩
  dsimp only [Session.turn, Session.resume, Fetch.step, Session.now_moment]
  cases result with
  | error error =>
      rw [chronicle_fetchEnded_error]
      exact noted rfl
  | ok envelopes =>
      cases envelopes with
      | nil => exact noted rfl
      | cons envelope rest =>
          exact .single (.stored number envelope rest)

/-- Turns of other tasks record nothing that matters. -/
theorem exists_silent_turn
    (session : Session Number)
    {activity : Activity}
    (apart : ¬activity.Supplies)
    (finding : Finding)
    (others : List Activity) :
    ∃ happened,
      (session.turn finding others activity).records = session.records ++ happened ∧
        ∀ record ∈ happened, record.IsIncidental := by
  by_cases awaits : ∃ context fetch, activity = .receiver context (.awaiting fetch)
  · obtain ⟨context, fetch, rfl⟩ := awaits
    refine ⟨_, rfl, fun record member => ?_⟩
    rcases List.mem_append.mp member with asked | own
    · contradiction
    · obtain ⟨answered, records, silent⟩ := exists_records_eq context session.subscription
        session.subscription (Receiver.step (session.moment finding)
          (session.cancelled.contains context) session.subscription (.awaiting fetch)).next
      rw [poppedSince_of_queue_eq rfl, List.map_nil, List.nil_append] at records
      exact silent record (records ▸ own)
  · obtain ⟨happened, records, known⟩ := exists_records_turn session finding others activity
    refine ⟨happened, records, fun record member => ?_⟩
    have kind := known record member
    cases kind with
    | starting => exact absurd (.receiver _) apart
    | @popped context receiver envelope =>
        cases receiver with
        | asking => exact absurd (.receiver context) apart
        | awaiting fetch => exact absurd ⟨context, fetch, rfl⟩ awaits
    | fetched => exact absurd (.fetch _ _) apart
    | _ => exact ⟨⟨rfl, rfl⟩, rfl⟩

omit [Scalar Number] in
theorem now_request (session : Session Number) (request : AckRequest) :
    (session.request request).now = session.now := by
  unfold Session.request
  split
  next => rfl
  next => split <;> rfl

/-- Only time itself passes. -/
theorem now_step
    {move : Move}
    (still : ∀ nanos, move ≠ .elapse nanos) : (session.step move).now = session.now := by
  cases move with
  | elapse nanos => exact absurd rfl (still nanos)
  | turn place finding =>
      rw [Session.step]
      split
      next => rfl
      next activity found => cases activity <;> rfl
  | complete place isAck =>
      rw [Session.step, Session.complete]
      split
      next =>
        dsimp only
        split
        next request _ => exact now_request _ request
        next => rfl
      next => rfl
  | discard place =>
      rw [Session.step, Session.discard]
      split <;> rfl
  | receive context | shutdown context =>
      rw [Session.step, Session.call]
      split <;> rfl
  | abandon place =>
      rw [Session.step]
      split
      next => rfl
      next => split <;> rfl
  | drop =>
      rw [Session.step]
      split <;> rfl
  | cancel context => rfl

/-- Every move is a chain of the steps. -/
theorem steps_step (session : Session Number) (move : Move) (timeline : List (Nat × Record)) :
    (session.subscription.chronicle session.now timeline).Steps
      ((session.step move).subscription.chronicle (session.step move).now
        (timeline ++ session.added move)) := by
  have traced {happened : List Record}
      (still : ∀ nanos, move ≠ .elapse nanos)
      (records : (session.step move).records = session.records ++ happened)
      (steps : (session.subscription.chronicle session.now timeline).Steps
        ((session.step move).subscription.chronicle session.now
          (timeline ++ stamped session.now happened))) :
      (session.subscription.chronicle session.now timeline).Steps
        ((session.step move).subscription.chronicle (session.step move).now
          (timeline ++ session.added move)) := by
    rwa [now_step still, Session.added_of_records_eq records]
  cases move with
  | elapse nanos =>
      have nothing : session.added (.elapse nanos) = stamped session.now [] :=
        Session.added_of_records_eq (List.append_nil _).symm
      rw [nothing, stamped, List.map_nil, List.append_nil]
      exact .single (.passed nanos)
  | turn place finding =>
      have still : ∀ nanos, Move.turn place finding ≠ .elapse nanos := by simp
      cases found : session.activities[place]? with
      | none =>
          have unchanged : session.step (.turn place finding) = session := by
            rw [Session.step, found]
          rw [unchanged] at traced ⊢
          exact traced still (List.append_nil _).symm (steps_silent _ _ _ (by simp))
      | some activity =>
          have turned : session.step (.turn place finding) =
              session.turn finding (session.activities.eraseIdx place) activity := by
            rw [Session.step, found]
          rw [turned] at traced ⊢
          by_cases supplies : activity.Supplies
          · cases supplies with
            | receiver context =>
                obtain ⟨happened, records, steps⟩ := steps_asking session finding _ context timeline
                exact traced still records steps
            | fetch number result =>
                exact traced still rfl (steps_storing session finding _ number result timeline)
          · obtain ⟨happened, records, silent⟩ := exists_silent_turn session supplies finding
              (session.activities.eraseIdx place)
            exact traced still records
              (steps_of_rests (rests_turn supplies finding _) _ _ silent)
  | _ =>
      obtain ⟨happened, records, known⟩ := exists_recorded_step session _
      refine traced (by simp) records (steps_of_rests (rests_step (by simp)) _ _ ?_)
      intro record member
      cases known record member with
      | turned taken => contradiction
      | _ => exact ⟨⟨rfl, rfl⟩, rfl⟩

theorem chronicle_append_singleton (setup : Setup Number) (moves : List Move) (move : Move) :
    ((sessionOf setup moves).subscription.chronicle (sessionOf setup moves).now
        (timelineOf setup moves)).Steps
      ((sessionOf setup (moves ++ [move])).subscription.chronicle
        (sessionOf setup (moves ++ [move])).now (timelineOf setup (moves ++ [move]))) := by
  rw [sessionOf_append_singleton, timelineOf, timelineOf, Session.timeline_append_singleton]
  exact steps_step _ _ _

theorem gauge_append_singleton (setup : Setup Number) (moves : List Move) (move : Move) :
    ((sessionOf setup moves).subscription.gauge (sessionOf setup moves).now
        (timelineOf setup moves)).Steps
      ((sessionOf setup (moves ++ [move])).subscription.gauge
        (sessionOf setup (moves ++ [move])).now (timelineOf setup (moves ++ [move]))) :=
  (chronicle_append_singleton setup moves move).lift Chronicle.gauge fun _ _ step => step.gauge

end Moves

end Subscription
end PubSub
