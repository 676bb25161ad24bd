import PubSub.Proofs.Prefetch.Estimating
import PubSub.Proofs.Subscription.Supply

/-!
# Receivers that find the queue empty

A receiver that finds the queue empty goes back to the beginning, unless there is a background
receive to wait for. It would do so again and again if an empty queue did not always count as low
enough to start one. It does, because the estimate is never below one and the fill level at which a
receive starts is never negative. So a receiver that asks is answered, or waits for a background
receive that has not woken it yet.

The arithmetic here is exact.
-/

namespace PubSub
namespace Subscription

/-! ## An empty queue is low -/

/-- The estimate is never below one. -/
theorem one_le_running (setup : Setup Rat) (moves : List Move) :
    1 ≤ (sessionOf setup moves).supply.running := by
  induction moves using List.reverseRecOn with
  | nil =>
      show 1 ≤ Scalar.greatest setup.tuning.initial Scalar.one
      rw [Scalar.greatest_rat, Scalar.one_rat]
      exact le_max_right ..
  | append_singleton moves move hypothesis =>
      have step := supply_append_singleton setup moves move
      generalize (sessionOf setup (moves ++ [move])).supply = later at step ⊢
      cases step with
      | kept | taken | stored | failed => exact hypothesis
      | begun idle low chosen => exact chosen.one_le hypothesis

theorem wantsPrefetch_zero (setup : Setup Rat) (moves : List Move) :
    (sessionOf setup moves).subscription.estimator.wantsPrefetch 0 = true := by
  have positive : 0 ≤ (sessionOf setup moves).subscription.estimator.running :=
    zero_le_one.trans (one_le_running setup moves)
  unfold Estimator.wantsPrefetch
  rw [Scalar.atMost_rat, Scalar.ofCount_rat, Nat.cast_zero]
  exact mul_nonneg positive (Scalar.isExact_rat.ratio _)

/-! ## What a receiver does then -/

section Asking

variable {Number : Type} [Scalar Number] {subscription : Subscription Number}

/-- If an empty queue is low, then an empty queue is never left without a background receive. -/
theorem receiving_prefetch_ne_none
    (low : subscription.estimator.wantsPrefetch 0 = true)
    (empty : subscription.queue = [])
    (now : Nat) : (subscription.prefetch now).2.receiving ≠ none := by
  unfold prefetch
  rw [empty, List.length_nil, low, Bool.and_true]
  split
  next => exact Option.some_ne_none _
  next noted => rwa [Option.isNone_iff_eq_none] at noted

/-- What a receiver finds when it asks, if an empty queue is low. -/
inductive Asks (subscription : Subscription Number) (after : Subscription Number) :
    ReceiveMove → Prop
  | failed (error : Error) : Asks subscription after (.failed error)
  | delivered (envelope : Envelope) : Asks subscription after (.delivered envelope)
  | await {fetch : Nat} (empty : subscription.queue = []) (noted : after.receiving = some fetch) :
      Asks subscription after (.await fetch)

omit [Scalar Number] in
theorem Asks.ne_again
    {after : Subscription Number}
    {move : ReceiveMove}
    (asks : subscription.Asks after move) : move ≠ .again := by
  cases asks <;> rintro ⟨⟩

theorem asks_receive
    (low : subscription.estimator.wantsPrefetch 0 = true)
    (cancelled : Bool)
    (now : Nat) :
    subscription.Asks (subscription.receive cancelled now).subscription
      (subscription.receive cancelled now).move := by
  unfold receive
  split
  next error _ => exact .failed error
  next =>
    split
    next => exact .failed .canceled
    next =>
      dsimp only
      unfold takeQueued
      rw [queue_prefetch]
      split
      next envelope rest _ => exact .delivered envelope
      next empty =>
        cases noted : (subscription.prefetch now).2.receiving with
        | none => exact absurd noted (receiving_prefetch_ne_none low empty now)
        | some fetch => exact .await empty rfl

end Asking

/-- A receiver that asks is answered in its turn, or goes on to wait for the background receive that
is noted then. -/
theorem answered_or_awaiting
    {Number : Type} [Scalar Number]
    {session : Session Number}
    (low : session.subscription.estimator.wantsPrefetch 0 = true)
    (finding : Finding)
    (others : List Activity)
    (context : Nat) :
    let later := session.turn finding others (.receiver context .asking)
    (∃ happened result,
      later.records = session.records ++ happened ++ [.received context result]) ∨
      ∃ number,
        .receiver context (.awaiting number) ∈ later.activities ∧
          session.subscription.queue = [] ∧ later.subscription.receiving = some number := by
  have asks := asks_receive low (session.cancelled.contains context) session.now
  dsimp only [Session.turn, Session.resume, Receiver.step, Session.now_moment]
  generalize session.subscription.receive _ session.now = step at asks ⊢
  obtain ⟨after, fetch, move⟩ := step
  have answered (result : Outcome Message) : ∃ happened other,
      session.records ++ ((session.subscription.fetchEffects fetch).map .asked
        ++ Receiver.records context session.subscription after (.done result)) =
          session.records ++ happened ++ [.received context other] :=
    ⟨_ ++ _, result, by simp only [Receiver.records, List.append_assoc]; rfl⟩
  dsimp only at asks
  cases asks with
  | failed error => exact .inl (answered (.error error))
  | delivered envelope => exact .inl (answered (.ok (session.subscription.wrap envelope)))
  | @await number empty noted =>
      refine .inr ⟨number, ?_, empty, noted⟩
      simp [afterReceive, Next.tasks]

/-- A receiver that finds the queue empty is never sent back to the beginning without waiting. In
each turn a receiver that asks is answered, or goes on to wait for a background receive that has not
woken its receivers yet, and is at work unless it ended abnormally. -/
theorem receiver_never_spins (setup : Setup Rat) (moves : List Move) :
    let session := sessionOf setup moves
    session.subscription.estimator.wantsPrefetch 0 = true ∧
    (∀ cancelled now, (session.subscription.receive cancelled now).move ≠ .again) ∧
    ∀ place context finding, session.activities[place]? = some (.receiver context .asking) →
      let later := session.step (.turn place finding)
      (∃ happened result,
        later.records = session.records ++ happened ++ [.received context result]) ∨
        ∃ number,
          .receiver context (.awaiting number) ∈ later.activities ∧
            session.subscription.queue = [] ∧
            later.subscription.receiving = some number ∧
            later.subscription.hasEnded number = false ∧
            (number ∈ later.inFlight ∨ number ∈ later.crashed) := by
  intro session
  have low : session.subscription.estimator.wantsPrefetch 0 = true := wantsPrefetch_zero setup moves
  refine ⟨low, fun cancelled now => (asks_receive low cancelled now).ne_again, ?_⟩
  intro place context finding found later
  have turned : later = session.turn finding (session.activities.eraseIdx place)
      (.receiver context .asking) := by
    show session.step _ = _
    rw [Session.step, found]
  have tracked : Tracked later :=
    tracked_of_reached ((reached_sessionOf setup moves).trans (changes_step session _))
  refine (turned ▸ answered_or_awaiting low finding _ context).imp_right ?_
  rintro ⟨number, awaits, empty, noted⟩
  have inFlight := tracked.receiving.mem_iff.mpr (Option.mem_toList.mpr noted)
  refine ⟨number, awaits, empty, noted, ?_, List.mem_append.mp inFlight⟩
  rw [hasEnded, List.contains_eq_mem, decide_eq_false_iff_not]
  exact fun woken => (tracked.finished number (.inr woken)).cleared noted

/-- The first receiver of a subscription waits for the background receive that it has started. -/
theorem receiver_never_spins_of_first :
    let session := sessionOf .exact [.receive 0]
    let later := session.step (.turn 0 {})
    session.activities[0]? = some (.receiver 0 .asking) ∧
      ∃ number,
        .receiver 0 (.awaiting number) ∈ later.activities ∧
          later.subscription.receiving = some number ∧
          later.subscription.hasEnded number = false := by
  intro session later
  have asking : session.activities[0]? = some (.receiver 0 .asking) := rfl
  refine ⟨asking, ?_⟩
  rcases (receiver_never_spins .exact [.receive 0]).2.2 0 0 {} asking with
    ⟨happened, result, answered⟩ | ⟨number, awaits, -, noted, unended, -⟩
  · have started : (later.records.getLast?.bind Record.started?).isSome = true := by decide +kernel
    have last : later.records.getLast? = some (.received 0 result) := by
      rw [show later.records = _ from answered, List.getLast?_concat]
    rw [last] at started
    contradiction
  · exact ⟨number, awaits, noted, unended⟩

end Subscription
end PubSub
