import PubSub.Proofs.Prefetch.Estimating
import PubSub.Proofs.Subscription.Gauging

/-!
# What the measured window counts

A window is open as long as there are messages in the queue, and it counts every delivery since it
was opened. A receiver that finds the queue empty closes it. It stays closed when messages arrive
afterwards, before the next size is chosen, although their deliveries are counted.
-/

namespace PubSub
namespace Subscription

variable {Number : Type} [Scalar Number]

/-! ## What the window counts -/

/-- The deliveries of a window that was closed: all were made before, and the queue is empty, or
those made afterwards are of messages that arrived afterwards. -/
inductive Closed (stop : Nat) (queue : List Envelope) (recent : List (Nat × Record)) : Prop
  | dry (empty : queue = []) (before : ∀ time ∈ deliveries recent, time ≤ stop)
  | refilled {within later : List (Nat × Record)} {time number : Nat} {envelope : Envelope}
      {rest : List Envelope}
      (split : recent = within ++ (time, .fetched number (.ok (envelope :: rest))) :: later)
      (before : ∀ other ∈ deliveries within, other ≤ stop)
      (arrived : stop ≤ time)
      (after : ∀ other ∈ deliveries later, stop ≤ other)

namespace Closed

variable {stop now : Nat} {queue rest : List Envelope} {envelope : Envelope}
  {recent : List (Nat × Record)}

theorem noted
    (closed : Closed stop queue recent)
    {record : Record}
    (silent : record.popped? = none) : Closed stop queue (recent ++ [(now, record)]) := by
  have nothing := deliveries_singleton_of_silent now silent
  cases closed with
  | dry empty before => exact .dry empty (by simpa [nothing] using before)
  | refilled split before arrived after =>
      subst split
      rw [List.append_assoc, List.cons_append]
      exact .refilled rfl before arrived (by simpa [nothing] using after)

/-- A message that is taken from the queue has arrived afterwards. -/
theorem taken
    (closed : Closed stop (envelope :: rest) recent)
    (past : stop ≤ now) : Closed stop rest (recent ++ [(now, .popped envelope)]) := by
  cases closed with
  | dry empty before => contradiction
  | refilled split before arrived after =>
      subst split
      rw [List.append_assoc, List.cons_append]
      refine .refilled rfl before arrived fun other member => ?_
      rw [deliveries_append] at member
      rcases List.mem_append.mp member with earlier | last
      · exact after other earlier
      · rwa [List.mem_singleton.mp last]

theorem stored
    (closed : Closed stop queue recent)
    (past : stop ≤ now)
    (number : Nat) :
    Closed stop (queue ++ envelope :: rest)
      (recent ++ [(now, .fetched number (.ok (envelope :: rest)))]) := by
  cases closed with
  | dry empty before => exact .refilled rfl before past (by simp)
  | refilled split before arrived after =>
      subst split
      rw [List.append_assoc, List.cons_append]
      exact .refilled rfl before arrived (by simpa using after)

end Closed

/-- What is known about a window. -/
structure Gauge.Sound (gauge : Gauge Number) : Prop where
  several : gauge.estimator.isSingle = false
  counted : gauge.estimator.count = (deliveries gauge.recent).length
  past : ∀ time ∈ deliveries gauge.recent, time ≤ gauge.now
  unopened : gauge.estimator.start = none →
    gauge.estimator.stop = none ∧ gauge.queue = [] ∧ deliveries gauge.recent = []
  opened : ∀ start, gauge.estimator.start = some start →
    start ≤ gauge.now ∧ ∀ time ∈ deliveries gauge.recent, start ≤ time
  closed : ∀ start stop, gauge.estimator.start = some start → gauge.estimator.stop = some stop →
    start ≤ stop ∧ stop ≤ gauge.now ∧ Closed stop gauge.queue gauge.recent

namespace Gauge

variable {gauge later : Gauge Number}

omit [Scalar Number] in
theorem Sound.passed (sound : gauge.Sound) (nanos : Nat) :
    ({ gauge with now := gauge.now + nanos } : Gauge Number).Sound where
  several := sound.several
  counted := sound.counted
  past time member := Nat.le_add_right_of_le (sound.past time member)
  unopened := sound.unopened
  opened start opened :=
    (sound.opened start opened).imp_left Nat.le_add_right_of_le
  closed start stop opened stopped :=
    (sound.closed start stop opened stopped).imp_right (And.imp_left Nat.le_add_right_of_le)

omit [Scalar Number] in
theorem Sound.noted
    (sound : gauge.Sound)
    {record : Record}
    (silent : record.popped? = none) :
    ({ gauge with recent := gauge.recent ++ [(gauge.now, record)] } : Gauge Number).Sound := by
  have same : deliveries (gauge.recent ++ [(gauge.now, record)]) = deliveries gauge.recent := by
    rw [deliveries_append, deliveries_singleton_of_silent _ silent, List.append_nil]
  exact
    { several := sound.several
      counted := same ▸ sound.counted
      past := same ▸ sound.past
      unopened := same ▸ sound.unopened
      opened := same ▸ sound.opened
      closed := fun start stop opened stopped =>
        (sound.closed start stop opened stopped).imp_right
          (And.imp_right fun closed => closed.noted silent) }

/-- A new window is opened if there are messages in the queue. -/
theorem Sound.sized (sound : gauge.Sound) :
    ({ gauge with
      estimator := (gauge.estimator.nextSize gauge.now gauge.queue.length).2
      recent := [] } : Gauge Number).Sound := by
  rw [gauge.estimator.nextSize_of_several sound.several]
  refine ⟨sound.several, rfl, by simp, fun unopened => ?unopened, fun start opened => ?opened,
    fun _ _ _ stopped => by contradiction⟩
  case unopened =>
      dsimp only at unopened
      split at unopened
      next empty => exact ⟨rfl, List.eq_nil_of_length_eq_zero empty, rfl⟩
      next => contradiction
  case opened =>
      dsimp only at opened
      split at opened
      next => contradiction
      next =>
        cases opened
        exact ⟨le_refl _, by simp⟩

omit [Scalar Number] in
/-- A window is open as long as there are messages to be delivered. -/
theorem Sound.taken
    (sound : gauge.Sound)
    {envelope : Envelope}
    {rest : List Envelope}
    (queued : gauge.queue = envelope :: rest) :
    ({ gauge with
      estimator := gauge.estimator.recordDelivery
      queue := rest
      recent := gauge.recent ++ [(gauge.now, .popped envelope)] } : Gauge Number).Sound := by
  have delivered : deliveries (gauge.recent ++ [(gauge.now, .popped envelope)]) =
      deliveries gauge.recent ++ [gauge.now] := deliveries_append ..
  refine ⟨sound.several, ?counted, ?past, fun unopened => ?unopened, fun start opened => ?opened,
    fun start stop opened stopped => ?closed⟩
  case counted => simp [Estimator.recordDelivery, sound.counted, delivered]
  case past => simpa [delivered, or_imp, forall_and] using sound.past
  case unopened =>
      have empty := (sound.unopened unopened).2.1
      rw [queued] at empty
      contradiction
  case opened =>
      obtain ⟨begun, within⟩ := sound.opened start opened
      exact ⟨begun, by simpa [delivered, or_imp, forall_and] using ⟨within, begun⟩⟩
  case closed =>
      obtain ⟨ordered, past, closed⟩ := sound.closed start stop opened stopped
      exact ⟨ordered, past, (queued ▸ closed).taken past⟩

omit [Scalar Number] in
/-- A receiver that finds the queue empty closes a window that is open. -/
theorem Sound.foundEmpty
    (sound : gauge.Sound)
    (empty : gauge.queue = []) :
    ({ gauge with estimator := gauge.estimator.recordEmpty gauge.now } : Gauge Number).Sound := by
  unfold Estimator.recordEmpty
  split
  next opens =>
    have some : gauge.estimator.start ≠ none := by
      rw [← Option.isSome_iff_ne_none]
      exact (Bool.and_eq_true_iff.mp opens).1
    refine ⟨sound.several, sound.counted, sound.past, fun unopened => absurd unopened some,
      sound.opened, fun start stop opened stopped => ?_⟩
    cases stopped
    exact ⟨(sound.opened start opened).1, le_refl _, .dry empty sound.past⟩
  next => exact sound

omit [Scalar Number] in
/-- Messages that arrive open a window, unless there is one, even if it is closed. -/
theorem Sound.stored
    (sound : gauge.Sound)
    (number : Nat)
    (envelope : Envelope)
    (rest : List Envelope) :
    ({ gauge with
      estimator := gauge.estimator.recordArrival gauge.now
      queue := gauge.queue ++ envelope :: rest
      recent := gauge.recent ++ [(gauge.now, .fetched number (.ok (envelope :: rest)))] } :
        Gauge Number).Sound := by
  have same : deliveries (gauge.recent
      ++ [(gauge.now, .fetched number (.ok (envelope :: rest)))]) = deliveries gauge.recent := by
    simp
  unfold Estimator.recordArrival
  split
  next unopened =>
    obtain ⟨unstopped, -, nothing⟩ := sound.unopened (Option.isNone_iff_eq_none.mp unopened)
    refine ⟨sound.several, same ▸ sound.counted, same ▸ sound.past, fun none => by contradiction,
      fun start opened => ?opened, fun start stop _ stopped => ?closed⟩
    case opened =>
        cases opened
        exact ⟨le_refl _, by simp [same, nothing]⟩
    case closed =>
        rw [unstopped] at stopped
        contradiction
  next opened =>
    refine ⟨sound.several, same ▸ sound.counted, same ▸ sound.past, fun unopened => ?unopened,
      same ▸ sound.opened, fun start stop opened stopped => ?closed⟩
    case unopened => exact absurd (Option.isNone_iff_eq_none.mpr unopened) opened
    case closed =>
        obtain ⟨ordered, past, closed⟩ := sound.closed start stop opened stopped
        exact ⟨ordered, past, closed.stored past number⟩

theorem Sound.step (sound : gauge.Sound) (step : gauge.Step later) : later.Sound := by
  cases step with
  | passed nanos => exact sound.passed nanos
  | noted silent => exact sound.noted silent.2
  | sized => exact sound.sized
  | taken queued => exact sound.taken queued
  | foundEmpty empty => exact sound.foundEmpty empty
  | stored number envelope rest => exact sound.stored number envelope rest

theorem Sound.steps (sound : gauge.Sound) (steps : gauge.Steps later) : later.Sound := by
  induction steps with
  | refl => exact sound
  | tail _ last hypothesis => exact hypothesis.step last

end Gauge

theorem sound_sessionOf
    (setup : Setup Number)
    (several : setup.receiving.isSingle = false)
    (moves : List Move) :
    ((sessionOf setup moves).subscription.gauge (sessionOf setup moves).now
      (timelineOf setup moves)).Sound := by
  induction moves using List.reverseRecOn with
  | nil =>
      exact ⟨several, rfl, by simp [gauge, timelineOf, Session.timeline, sinceSized],
        fun _ => ⟨rfl, rfl, rfl⟩, fun _ _ => by contradiction, fun _ _ _ => by contradiction⟩
  | append_singleton moves move hypothesis =>
      exact hypothesis.steps (gauge_append_singleton setup moves move)

/-- What is divided by the length of the window is the number of all deliveries since a size was
chosen last. None of them was made before the window was opened, and one that was made after its end
comes after messages that arrived when the window was closed and the queue empty. -/
theorem deliveries_of_window
    (setup : Setup Number)
    (several : setup.receiving.isSingle = false)
    (moves : List Move)
    {start : Nat}
    (opened : (sessionOf setup moves).subscription.estimator.start = some start) :
    let session := sessionOf setup moves
    let estimator := session.subscription.estimator
    let stop := estimator.stop.getD session.now
    let recent := sinceSized (timelineOf setup moves)
    start ≤ stop ∧ stop ≤ session.now ∧
    (∀ queueLength,
      (estimator.nextSize session.now queueLength).2.running =
        Scalar.clamp (estimator.measured start stop) Scalar.one
          (Scalar.ofCount estimator.tuning.sizeLimit)) ∧
    estimator.count = (deliveries recent).length ∧
    ∃ within later,
      recent = within ++ later ∧
      (∀ time ∈ deliveries within, start ≤ time ∧ time ≤ stop) ∧
      (∀ time ∈ deliveries later, stop ≤ time) ∧
      (later = [] ∨
        estimator.stop = some stop ∧
          ∃ time number envelope rest after,
            later = (time, .fetched number (.ok (envelope :: rest))) :: after ∧ stop ≤ time) := by
  intro session estimator stop recent
  have sound := sound_sessionOf setup several moves
  obtain ⟨begun, within⟩ := sound.opened start opened
  have sized (queueLength : Nat) :
      (estimator.nextSize session.now queueLength).2.running =
        Scalar.clamp (estimator.measured start stop) Scalar.one
          (Scalar.ofCount estimator.tuning.sizeLimit) := by
    rw [estimator.nextSize_of_several sound.several]
    show estimator.updated session.now = _
    rw [Estimator.updated, show estimator.start = some start from opened]
  cases stopped : estimator.stop with
  | none =>
      have unstopped : stop = session.now := by simp [stop, stopped]
      refine ⟨unstopped ▸ begun, unstopped.le, sized, sound.counted, recent, [],
        (List.append_nil _).symm, fun time member => ⟨within time member, ?_⟩, by simp, .inl rfl⟩
      rw [unstopped]
      exact sound.past time member
  | some time =>
      have ended : stop = time := by simp [stop, stopped]
      obtain ⟨ordered, past, closed⟩ := sound.closed start time opened stopped
      rw [← ended] at ordered past closed ⊢
      refine ⟨ordered, past, sized, sound.counted, ?_⟩
      cases closed with
      | dry empty before =>
          exact ⟨recent, [], (List.append_nil _).symm,
            fun other member => ⟨within other member, before other member⟩, by simp, .inl rfl⟩
      | @refilled first after arrival number envelope rest split before arrived later =>
          refine ⟨first, _, split, fun other member => ⟨within other ?_, before other member⟩,
            later, .inr ⟨rfl, arrival, number, envelope, rest, after, rfl, arrived⟩⟩
          have parts : recent = first ++ _ := split
          show other ∈ deliveries recent
          rw [parts, deliveries_append]
          exact List.mem_append_left _ member

/-- A setup whose estimate is the newest measurement. -/
def Setup.hasty : Setup Rat :=
  { Setup.exact with
    tuning :=
      { Tuning.exact with
        desired := Duration.ofMillis 1000
        expected := Duration.ofMillis 500
        initial := 4
        decay := 1
        growth := 1000
        shrink := 1 / 1000 }
    receiving := {} }

/-- Three messages are queued, and the last two of them leave the queue after one second, when a
size is chosen. Ten milliseconds later the queue is found empty, and another ten milliseconds later
one more message arrives and is delivered. -/
def refilling : List Move :=
  let envelope : Envelope := { body := [], ackId := some (.number 0) }
  [.receive 0, .turn 0 {}, .turn 0 {},
    .turn 0 { fetched := .returned (.ok [envelope, envelope, envelope]) },
    .turn 0 {}, .turn 0 {}, .turn 0 {}, .turn 0 {}, .turn 0 {},
    .elapse 1000000000, .receive 0, .turn 0 {}, .receive 0, .turn 0 {},
    .elapse 10000000, .receive 0, .turn 0 {},
    .elapse 10000000, .turn 1 {}, .turn 0 { fetched := .returned (.ok [envelope]) },
    .turn 0 {}, .turn 0 {}, .turn 0 {}, .turn 0 {}, .turn 0 {}]

theorem deliveries_of_refilling :
    let estimator := (sessionOf .hasty refilling).subscription.estimator
    let recent := sinceSized (timelineOf .hasty refilling)
    Setup.hasty.receiving.isSingle = false ∧ estimator.start = some 1000000000 ∧
      estimator.count = (deliveries recent).length ∧
      ∃ within later, recent = within ++ later ∧
        ∀ time ∈ deliveries within, 1000000000 ≤ time ∧ time ≤ 1010000000 := by
  intro estimator recent
  have several : Setup.hasty.receiving.isSingle = false := rfl
  have opened : estimator.start = some 1000000000 := by decide +kernel
  have stopped : estimator.stop.getD (sessionOf .hasty refilling).now = 1010000000 := by
    decide +kernel
  obtain ⟨-, -, -, counted, within, later, split, inside, -⟩ :=
    deliveries_of_window .hasty several refilling opened
  exact ⟨several, opened, counted, within, later, split, stopped ▸ inside⟩

/-- The window was open for ten milliseconds, in which two messages were delivered: 200 in a second.
The third delivery is counted although the window was closed before, so the next background receive
asks for 300. -/
theorem overrun_of_refilling :
    let session := sessionOf .hasty refilling
    let estimator := session.subscription.estimator
    let later := sessionOf .hasty (refilling ++ [.receive 0, .turn 0 {}])
    estimator.start = some 1000000000 ∧ estimator.stop = some 1010000000 ∧
      deliveries (sinceSized (timelineOf .hasty refilling)) =
        [1000000000, 1000000000, 1020000000] ∧
      later.started = [(0, [4]), (1, [1]), (2, [300])] ∧
      ({ estimator with count := 2 }.nextSize session.now 0).1 = 200 := by
  decide +kernel

end Subscription
end PubSub
