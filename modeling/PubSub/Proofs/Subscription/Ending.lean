import PubSub.Proofs.Subscription.Acknowledging
import PubSub.Proofs.Subscription.Stickiness
import PubSub.Proofs.Subscription.Withholding

/-!
# The order in which a subscription is shut down

A shutdown waits for the acknowledgments, then ends the context of the driver calls and closes the
driver. So whatever was handed to the acknowledgments has been taken care of when the driver is
closed, unless the shutdown was told not to wait; and once the context has ended, no other driver
call is made, and the calls that run are left alone. A receiver that still waits then waits for a
background receive that ended abnormally, with one of its driver calls or because there is no delay
before another attempt.
-/

namespace PubSub
namespace Subscription

variable {Number : Type}

/-! ## Driver calls under an ended context -/

/-- A driver call for messages or about acknowledgments. -/
@[simp] def Record.call? : Record → Option Effect
  | .asked (.receiveBatch fetch place requested) => some (.receiveBatch fetch place requested)
  | .asked (.sendAcks batch place call) => some (.sendAcks batch place call)
  | _ => none

/-- The driver calls for messages and about acknowledgments, oldest first. -/
@[simp] def Session.calls (session : Session Number) : List Effect :=
  session.records.filterMap Record.call?

section Moves

variable [Scalar Number]

/-- What is fixed when a subscription is built, and what never ends. -/
structure Lasting (before after : Session Number) : Prop where
  retry : after.subscription.retry = before.subscription.retry
  background : before.subscription.backgroundEnded = true →
    after.subscription.backgroundEnded = true

namespace Lasting

variable {before after : Session Number}

theorem of_change (change : Change before after) : Lasting before after := by
  cases change with
  | ended | dropped => exact ⟨rfl, fun _ => rfl⟩
  | _ => exact ⟨rfl, id⟩

theorem of_changes (changes : Changes before after) : Lasting before after := by
  induction changes with
  | refl => exact ⟨rfl, id⟩
  | tail _ last hypothesis =>
      have next := of_change last
      exact ⟨next.retry.trans hypothesis.retry, next.background ∘ hypothesis.background⟩

end Lasting

/-- Under an ended context, no move makes a driver call. -/
theorem calls_step_of_ended
    {session : Session Number}
    (ended : session.subscription.backgroundEnded = true)
    (move : Move) : (session.step move).calls = session.calls := by
  obtain ⟨happened, records, known⟩ := exists_recorded_step session move
  rw [Session.calls, records]
  refine filterMap_append_of_eq_none (fun record member => ?_) session.records
  cases known record member with
  | turned taken found made =>
      cases made with
      | requested live | sent live => exact absurd (ended.symm.trans live) nofun
      | _ => rfl
  | _ => rfl

theorem calls_run_of_ended
    {session : Session Number}
    (ended : session.subscription.backgroundEnded = true)
    (later : List Move) : (session.run later).calls = session.calls := by
  induction later generalizing session with
  | nil => rfl
  | cons move rest hypothesis =>
      have still := (Lasting.of_changes (changes_step session move)).background ended
      exact (hypothesis still).trans (calls_step_of_ended ended move)

end Moves

/-! ## When the driver is closed -/

/-- Without acknowledgments there is nothing to wait for, and with them a flush ends when it finds
nothing left to do. -/
theorem looking_of_flushStep_done
    {moment : Moment}
    {subscription : Subscription Number}
    {flush : Batcher.Flush}
    {result : Unit}
    (done : (flushStep moment subscription flush).next = .done result) :
    subscription.acks = none ∨
      ∃ acks seen, subscription.acks = some acks ∧ flush = .looking seen ∧
        acks.isIdle = true := by
  unfold flushStep at done
  split at done
  next absent => exact .inl absent
  next acks present =>
    refine .inr ?_
    cases flush with
    | starting => contradiction
    | listening => contradiction
    | looking seen =>
        simp only [onAcks, Turn.map, Batcher.Flush.step] at done
        split at done
        next idle => exact ⟨acks, seen, present, rfl, idle⟩
        next => simp [Next.map] at done
    | waiting seen =>
        simp only [onAcks, Turn.map, Batcher.Flush.step] at done
        split at done <;> simp [Next.map] at done

/-- When a flush ends, every request that was handed over has been in a batch whose handler has
come to a result. -/
theorem Mirrored.handled_of_idle
    {session : Session Number}
    {batching : Batcher.Session AckRequest}
    {options : BatchOptions}
    (mirrored : Mirrored session batching)
    (reached : Batcher.Reached options batching)
    {context seen : Nat}
    (flushing : .shutdown context (.flushing (.looking seen)) ∈ session.activities)
    (idle : batching.batcher.isIdle = true) :
    ∀ entry ∈ session.accepted, ∃ ending ∈ session.handled, entry ∈ ending.1 := by
  intro entry accepted
  have mirror : .flush (.looking seen) ∈ batching.activities :=
    mirrored.activities.mem_iff.mp (List.mem_filterMap.mpr ⟨_, flushing, rfl⟩)
  obtain ⟨handlers, pending⟩ := Batcher.isIdle_iff.mp idle
  have quiet : Batcher.Quiet batching :=
    ⟨(Batcher.noticed_of_reached reached _ mirror).1, pending, handlers⟩
  rw [← mirrored.accepted_eq] at accepted
  rcases quiet.settled (Batcher.tallied_of_reached reached) (Batcher.conserved_of_reached reached)
      accepted with withdrawn | ⟨ending, ended, inBatch⟩
  · rw [mirrored.withdrawn_eq] at withdrawn
    contradiction
  · rw [mirrored.ended_eq, List.mem_map] at ended
    obtain ⟨handled, member, rfl⟩ := ended
    exact ⟨handled, member, inBatch⟩

section Closing

variable [Scalar Number] {setup : Setup Number}

/-- If messages are delivered at most once, no request is handed over. -/
theorem accepted_eq_nil_of_atMostOnce
    (atMostOnce : setup.atMostOnce = true)
    (moves : List Move) : (sessionOf setup moves).accepted = [] := by
  induction moves using List.reverseRecOn with
  | nil => rfl
  | append_singleton earlier move nothing =>
      obtain ⟨happened, records, known⟩ := exists_recorded_step (sessionOf setup earlier) move
      rw [sessionOf_append_singleton, Session.accepted, records]
      refine Eq.trans (filterMap_append_of_eq_none (fun record member => ?_) _) nothing
      cases known record member with
      | accepted completes present =>
          have absent := acks_isSome_sessionOf setup earlier
          rw [atMostOnce, Bool.not_true, Option.isSome_eq_false_iff, Option.isNone_iff_eq_none]
            at absent
          exact absurd absent present
      | turned taken found made => cases made <;> rfl
      | _ => rfl

omit [Scalar Number] in
theorem close?_ne_none {record : Record} (closes : record.close? ≠ none) :
    record = .asked .close := by
  cases record with
  | asked effect =>
      cases effect with
      | close => rfl
      | _ => exact absurd rfl closes
  | _ => exact absurd rfl closes

/-- The driver is closed by a shutdown that has waited for the acknowledgments, unless its context
is cancelled: then every request that was handed over has been in a batch whose handler has come to
a result. -/
theorem exists_shutdown_of_closes
    (setup : Setup Number)
    (moves : List Move)
    {move : Move}
    (closes : ((sessionOf setup moves).step move).closes ≠ (sessionOf setup moves).closes) :
    ∃ place finding context flush,
      move = .turn place finding ∧
      (sessionOf setup moves).activities[place]? = some (.shutdown context (.flushing flush)) ∧
      (context ∉ (sessionOf setup moves).cancelled →
        ∀ entry ∈ (sessionOf setup moves).accepted,
          ∃ ending ∈ (sessionOf setup moves).handled, entry ∈ ending.1) := by
  obtain ⟨happened, records, known⟩ := exists_recorded_step (sessionOf setup moves) move
  obtain ⟨record, member, shown⟩ : ∃ record ∈ happened, record.close? ≠ none := by
    apply Classical.byContradiction
    intro nobody
    refine closes ?_
    rw [Session.closes, records]
    refine filterMap_append_of_eq_none (fun record member => ?_) _
    exact Classical.byContradiction fun shown => nobody ⟨record, member, shown⟩
  obtain rfl := close?_ne_none shown
  cases known _ member with
  | turned taken found made =>
      cases made with
      | @ended context flush reason =>
          refine ⟨_, _, context, flush, taken, found, fun live entry accepted => ?_⟩
          have done := reason.resolve_left live
          rcases looking_of_flushStep_done done with absent | ⟨acks, seen, present, rfl, idle⟩
          · have none := acks_isSome_sessionOf setup moves
            rw [absent, Option.isSome_none, Bool.false_eq, Bool.not_eq_false'] at none
            rw [accepted_eq_nil_of_atMostOnce none] at accepted
            contradiction
          · have atLeastOnce := acks_isSome_sessionOf setup moves
            rw [present, Option.isSome_some, Bool.true_eq, Bool.not_eq_true'] at atLeastOnce
            obtain ⟨batching, reached, mirrored⟩ := exists_mirrored atLeastOnce moves
            obtain rfl : acks = batching.batcher :=
              Option.some.inj (present.symm.trans mirrored.batcher)
            exact mirrored.handled_of_idle reached (List.mem_of_getElem? found) idle entry accepted

end Closing

/-! ## Receivers that are left -/

section Receivers

variable [Scalar Number]

/-- What an awaited driver call has come to is recorded. -/
theorem mem_records_turn_of_panicked
    {session : Session Number}
    {finding : Finding}
    {others : List Activity}
    {number place : Nat}
    {calls : Retry.Group Nat (List Envelope)}
    {info : String}
    (awaited : calls.awaited? = some place)
    (panicked : finding.fetched = .panicked info) :
    .answered number place (.panicked info) ∈
      (session.turn finding others (.fetch (.calling number calls))).records := by
  refine List.mem_append_right _ (List.mem_append_left _ (List.mem_append_left _ ?_))
  rw [awaited, panicked]
  exact .head _

/-- A background receive ends abnormally only with one of its driver calls, or if there is no delay
before another attempt. -/
theorem exists_reason_of_crashed
    (setup : Setup Number)
    (moves : List Move)
    {number : Nat}
    (crashed : number ∈ (sessionOf setup moves).crashed) :
    (∃ place info, .answered number place (.panicked info) ∈ (sessionOf setup moves).records) ∨
      ∃ failures, setup.retry.next? failures = none := by
  induction moves using List.reverseRecOn with
  | nil => contradiction
  | append_singleton earlier move hypothesis =>
      obtain ⟨happened, records, known⟩ := exists_recorded_step (sessionOf setup earlier) move
      rw [sessionOf_append_singleton] at crashed ⊢
      rw [Session.crashed, records, List.filterMap_append, List.mem_append] at crashed
      rcases crashed with before | now
      · refine (hypothesis before).imp_left fun ⟨place, info, panicked⟩ => ⟨place, info, ?_⟩
        rw [records]
        exact List.mem_append_left _ panicked
      · obtain ⟨record, member, shown⟩ := List.mem_filterMap.mp now
        cases known record member with
        | turned taken found made =>
            cases made with
            | crashed reason =>
                cases shown
                rcases reason with ⟨place, info, awaited, panicked⟩ | missing
                · subst taken
                  refine .inl ⟨place, info, ?_⟩
                  rw [Session.step, found]
                  exact mem_records_turn_of_panicked awaited panicked
                · rw [(Lasting.of_changes (reached_sessionOf setup earlier)).retry] at missing
                  exact .inr missing
            | _ => contradiction
        | _ => contradiction

/-- The number of a background receive. -/
@[simp] def Fetch.number : Fetch → Nat
  | .calling number _ => number
  | .storing number _ => number
  | .waking number => number

theorem Fetch.exists_of_inFlight?_or_waking?
    {activity : Activity}
    {number : Nat}
    (same : activity.inFlight? = some number ∨ activity.waking? = some number) :
    ∃ fetch, activity = .fetch fetch ∧ fetch.number = number := by
  cases activity with
  | fetch fetch => cases fetch <;> simp_all
  | _ => simp_all

/-- A receiver waits for a background receive that is at work, unless that has woken it or ended
abnormally. -/
theorem exists_fetch_of_awaiting
    {setup : Setup Number}
    {session : Session Number}
    (reached : Reached setup session)
    {number : Nat}
    (awaits : number ∈ session.awaiting) :
    number ∈ session.crashed ∨ session.subscription.hasEnded number = true ∨
      ∃ fetch, .fetch fetch ∈ session.activities ∧ fetch.number = number := by
  have tracked := tracked_of_reached reached
  have working : ∀ activity ∈ session.activities,
      activity.inFlight? = some number ∨ activity.waking? = some number →
        ∃ fetch, .fetch fetch ∈ session.activities ∧ fetch.number = number := by
    rintro _ member same
    obtain ⟨fetch, rfl, rfl⟩ := Fetch.exists_of_inFlight?_or_waking? same
    exact ⟨fetch, member, rfl⟩
  rcases tracked.whole number (tracked.awaiting number awaits) with noted | waking | woken
  · have present : number ∈ session.inFlight ++ session.crashed :=
      tracked.receiving.mem_iff.mpr (Option.mem_toList.mpr noted)
    rcases List.mem_append.mp present with inFlight | crashed
    · obtain ⟨activity, member, same⟩ := List.mem_filterMap.mp inFlight
      exact .inr (.inr (working activity member (.inl same)))
    · exact .inl crashed
  · obtain ⟨activity, member, same⟩ := List.mem_filterMap.mp waking
    exact .inr (.inr (working activity member (.inr same)))
  · exact .inr (.inl (List.contains_iff_mem.mpr woken))

/-- Under an ended context, a receiver that waits at rest waits for a background receive that ended
abnormally. -/
theorem crashed_of_resting
    {setup : Setup Number}
    {session : Session Number}
    (reached : Reached setup session)
    (ended : session.subscription.backgroundEnded = true)
    (resting : session.IsResting)
    {context : Nat}
    {receiver : Receiver}
    (waits : .receiver context receiver ∈ session.activities) :
    ∃ number, receiver = .awaiting number ∧ number ∈ session.crashed := by
  obtain ⟨number, rfl, asleep, -⟩ := awaiting_of_isWaiting (resting _ waits)
  refine ⟨number, rfl, ?_⟩
  rcases exists_fetch_of_awaiting reached (List.mem_filterMap.mpr ⟨_, waits, rfl⟩) with
    crashed | woken | ⟨fetch, member, -⟩
  · exact crashed
  · rw [asleep] at woken
    contradiction
  · -- Under an ended context, no look at the driver calls finds nothing to do.
    obtain ⟨other, calls, rfl, waiting⟩ := calling_of_isWaiting (resting _ member)
    rw [ended, Retry.Group.isWaiting_of_cancelled] at waiting
    contradiction

/-! ## Receivers that are woken -/

variable {session : Session Number} {others : List Activity} {number : Nat}

theorem run_turns_succ
    {activity : Activity}
    (first : session.activities = activity :: others)
    (count : Nat) :
    session.run (turns (count + 1)) = (session.turn {} others activity).run (turns count) := by
  rw [turns, List.replicate_succ, Session.run, List.foldl_cons, Session.step, first]
  rfl

/-- A background receive that has come to a result wakes its receivers. -/
theorem hasEnded_of_waking (first : session.activities = .fetch (.waking number) :: others) :
    (session.run (turns 1)).subscription.hasEnded number = true := by
  rw [run_turns_succ first]
  exact List.contains_iff_mem.mpr (.head _)

theorem hasEnded_of_storing
    {result : Outcome (List Envelope)}
    (first : session.activities = .fetch (.storing number result) :: others) :
    (session.run (turns 2)).subscription.hasEnded number = true := by
  rw [run_turns_succ first]
  exact hasEnded_of_waking rfl

/-- Under an ended context, a background receive whose driver calls end, though the driver comes to
no answer, wakes its receivers. -/
theorem exists_hasEnded_of_ends
    {plan : Nat → RetryPlan}
    {moment : Moment}
    {calls : Retry.Group Nat (List Envelope)}
    (ends : calls.Ends plan moment)
    (samePlan : plan = fun _ => session.subscription.plan receiveOperation)
    (sameMoment : moment = session.moment {})
    (ended : session.subscription.backgroundEnded = true)
    (first : session.activities = .fetch (.calling number calls) :: others) :
    ∃ count, (session.run (turns count)).subscription.hasEnded number = true := by
  induction ends generalizing session with
  | @finished calls result step =>
      subst samePlan sameMoment
      rw [← ended] at step
      refine ⟨3, ?_⟩
      rw [run_turns_succ first, Session.turn, Fetch.step]
      dsimp only
      rw [step]
      cases result with
      | ok fetched => exact hasEnded_of_storing rfl
      | error error => exact hasEnded_of_storing rfl
  | @goesOn calls later step _ hypothesis =>
      subst samePlan sameMoment
      rw [← ended] at step
      have turned : session.turn {} others (.fetch (.calling number calls)) =
          { session with activities := .fetch (.calling number later) :: others } := by
        rcases step with step | step <;>
          simp [Session.turn, Session.resume, Fetch.step, Fetch.records, cameTo, Next.tasks,
            startedBy, step]
      obtain ⟨count, woken⟩ := @hypothesis
        { session with activities := .fetch (.calling number later) :: others } rfl rfl ended rfl
      refine ⟨count + 1, ?_⟩
      rw [run_turns_succ first, turned]
      exact woken

/-- Under an ended context, a background receive that did not end abnormally wakes its receivers,
even if the driver comes to no answer. -/
theorem exists_hasEnded_of_first
    {fetch : Fetch}
    (ended : session.subscription.backgroundEnded = true)
    (first : session.activities = .fetch fetch :: others) :
    ∃ count, (session.run (turns count)).subscription.hasEnded fetch.number = true := by
  cases fetch with
  | calling number calls =>
      exact exists_hasEnded_of_ends (Retry.Group.ends_of_cancelled calls) rfl rfl ended first
  | storing number result => exact ⟨2, hasEnded_of_storing first⟩
  | waking number => exact ⟨1, hasEnded_of_waking first⟩

theorem exists_hasEnded_of_mem
    {fetch : Fetch}
    (ended : session.subscription.backgroundEnded = true)
    (member : .fetch fetch ∈ session.activities) :
    ∃ later, (∀ move ∈ later, move.IsIdle) ∧
      (session.run later).subscription.hasEnded fetch.number = true := by
  obtain ⟨place, found⟩ := List.mem_iff_getElem?.mp member
  -- The first turn brings the background receive to the front.
  obtain ⟨count, woken⟩ := @exists_hasEnded_of_first _ _
    { session with activities := .fetch fetch :: session.activities.eraseIdx place } _ _ ended rfl
  cases count with
  | zero => exact ⟨[], nofun, woken⟩
  | succ count =>
      refine ⟨.turn place {} :: turns count, ?idle, ?_⟩
      case idle =>
        intro move among
        rcases List.mem_cons.mp among with rfl | among
        · exact .turn place rfl rfl
        · rw [List.eq_of_mem_replicate among]
          exact .turn 0 rfl rfl
      rw [run_turns_succ rfl] at woken
      rw [Session.run, List.foldl_cons, Session.step, found]
      exact woken

end Receivers

/-- The driver is closed once at most, by a shutdown that has waited for the acknowledgments unless
its context is cancelled. Once the context of the driver calls has ended no other is made, and turns
of the tasks wake every receiver that waits, unless its background receive ended abnormally. -/
theorem closed_in_order
    [Scalar Number]
    (setup : Setup Number)
    (moves : List Move) :
    let session := sessionOf setup moves
    session.closes.length ≤ 1 ∧
    (∀ move, (session.step move).closes ≠ session.closes →
      ∃ place finding context flush,
        move = .turn place finding ∧
        session.activities[place]? = some (.shutdown context (.flushing flush)) ∧
        (context ∉ session.cancelled →
          ∀ entry ∈ session.accepted, ∃ ending ∈ session.handled, entry ∈ ending.1)) ∧
    (session.subscription.backgroundEnded = true →
      (∀ later, (session.run later).calls = session.calls) ∧
      (∀ number ∈ session.awaiting, number ∉ session.crashed →
        ∃ later, (∀ move ∈ later, move.IsIdle) ∧
          (session.run later).subscription.hasEnded number = true) ∧
      (session.IsResting →
        ∀ context receiver, .receiver context receiver ∈ session.activities →
          ∃ number, receiver = .awaiting number ∧ number ∈ session.crashed ∧
            ((∃ place info, .answered number place (.panicked info) ∈ session.records) ∨
              ∃ failures, setup.retry.next? failures = none))) := by
  intro session
  have reached : Reached setup session := reached_sessionOf setup moves
  refine ⟨?once, fun move => exists_shutdown_of_closes setup moves, fun ended =>
    ⟨calls_run_of_ended ended, fun number awaits whole => ?woken,
      fun resting context receiver waits => ?left⟩⟩
  case once =>
    have once : session.flushing.length + session.closes.length ≤ session.isEnding.toNat :=
      closesOnce_of_reached reached
    have single : session.isEnding.toNat ≤ 1 := Bool.toNat_le _
    omega
  case woken =>
    rcases (exists_fetch_of_awaiting reached awaits).resolve_left whole with
      woken | ⟨fetch, member, rfl⟩
    · exact ⟨[], nofun, woken⟩
    · exact exists_hasEnded_of_mem ended member
  case left =>
    obtain ⟨number, awaiting, crashed⟩ := crashed_of_resting reached ended resting waits
    exact ⟨number, awaiting, crashed, exists_reason_of_crashed setup moves crashed⟩

/-- Whether a driver call has ended abnormally. -/
def Record.isPanic : Record → Bool
  | .answered _ _ (.panicked _) => true
  | .settled _ _ (.panicked _) => true
  | _ => false

/-- A setup with the longest delay between attempts, which is no floating point number of seconds,
and with a driver that calls every error transient. -/
def Setup.patient : Setup Rat :=
  { Setup.exact with
    retry :=
      { Backoff.immediate with
        first := .ofParts maxWord 999999999
        longest := .ofParts maxWord 999999999 }
    classification := { Setup.exact.classification with isRetryable := fun _ => true } }

/-- No driver call ends abnormally, the driver is closed, and all tasks wait: a receiver waits
still, for a background receive that could not tell how long to wait before another attempt. -/
theorem stranded_by_patience :
    let session := sessionOf .patient
      ([.receive 0] ++ turns 2 ++ [.turn 0 { fetched := .returned (.error (.text "x")) }]
        ++ shuttingDown)
    (∀ record ∈ session.records, record.isPanic = false) ∧
      session.subscription.backgroundEnded = true ∧ session.closes.length = 1 ∧
      session.IsResting ∧ session.awaiting = [0] := by
  decide +kernel

end Subscription
end PubSub
