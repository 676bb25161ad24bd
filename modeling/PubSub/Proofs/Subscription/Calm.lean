import PubSub.Proofs.Subscription.Holding
import PubSub.Proofs.Subscription.Sending

/-!
# Runs in which nothing goes wrong

Nobody shuts the subscription down or drops it, nobody refuses a message, and the driver calls for
messages return messages that have tokens. Then no background receive ever fails, so whatever the
driver has returned left the queue, is queued, or is held by a background receive.
-/

namespace PubSub
namespace Subscription

variable {Number : Type}

/-- The awaited call for messages runs, or has returned messages that have tokens. -/
def Finding.IsFine (finding : Finding) : Prop :=
  finding.fetched = .running ∨
    ∃ envelopes, finding.fetched = .returned (.ok envelopes) ∧
      ∀ envelope ∈ envelopes, envelope.ackId.isSome = true

/-- The moves by which nothing goes wrong. -/
def Move.IsCalm : Move → Prop
  | .shutdown _ => False
  | .drop => False
  | .complete _ isAck => isAck = true
  | .turn _ finding => finding.IsFine
  | _ => True

/-- Nothing has gone wrong. -/
structure Calm (session : Session Number) : Prop where
  live : session.subscription.backgroundEnded = false
  unending : ∀ context closing, .shutdown context closing ∉ session.activities
  flawless : Flawless session
  tokens : ∀ envelope ∈ session.brought, envelope.ackId.isSome = true
  acks : ∀ request, .requested request ∈ session.fates → request.isAck = true

/-! ## Single steps -/

theorem backgroundEnded_takeQueued (subscription : Subscription Number) (now : Nat) :
    (subscription.takeQueued now).2.backgroundEnded = subscription.backgroundEnded := by
  unfold takeQueued
  split <;> rfl

theorem backgroundEnded_complete (session : Session Number) (place : Nat) (isAck : Bool) :
    (session.complete place isAck).subscription.backgroundEnded =
      session.subscription.backgroundEnded := by
  unfold Session.complete
  split
  next =>
    dsimp only
    split
    next =>
      unfold Session.request
      split
      next => rfl
      next => split <;> rfl
    next => rfl
  next => rfl

/-- Messages that have tokens pass the check. -/
theorem checkFetched_of_tokens
    {envelopes : List Envelope}
    (tokens : ∀ envelope ∈ envelopes, envelope.ackId.isSome = true)
    (subscription : Subscription Number) :
    subscription.checkFetched envelopes = .ok envelopes := by
  unfold checkFetched
  rw [if_neg]
  simpa [Option.ne_none_iff_isSome] using fun _ => tokens

variable [Scalar Number]

theorem backgroundEnded_prefetch (subscription : Subscription Number) (now : Nat) :
    (subscription.prefetch now).2.backgroundEnded = subscription.backgroundEnded := by
  unfold prefetch
  split <;> rfl

theorem backgroundEnded_receive
    (subscription : Subscription Number)
    (cancelled : Bool)
    (now : Nat) :
    (subscription.receive cancelled now).subscription.backgroundEnded =
      subscription.backgroundEnded := by
  unfold receive
  split
  next => rfl
  next =>
    split
    next => rfl
    next => exact (backgroundEnded_takeQueued ..).trans (backgroundEnded_prefetch ..)

/-- Only a shutdown ends the context of the driver calls. -/
theorem backgroundEnded_turn
    {session : Session Number}
    {finding : Finding}
    {others : List Activity}
    {activity : Activity}
    (apart : ∀ context closing, activity ≠ .shutdown context closing) :
    (session.turn finding others activity).subscription.backgroundEnded =
      session.subscription.backgroundEnded := by
  cases activity with
  | receiver context receiver =>
      cases receiver with
      | asking => exact backgroundEnded_receive ..
      | awaiting fetch => rfl
  | fetch fetch =>
      cases fetch with
      | calling number calls =>
          simp only [Session.turn, Session.resume, Fetch.step]
          split <;> rfl
      | storing number result =>
          obtain ⟨estimator, same⟩ :=
            exists_fetchEnded_eq session.subscription (session.moment finding).now result
          simp only [Session.turn, Session.resume, Fetch.step, same]
      | waking number => rfl
  | handler handler =>
      cases handler with
      | announcing batch => rfl
      | calling batch calls =>
          simp only [Session.turn, Session.resume, Handler.step, Handler.failed]
          split <;> rfl
      | failing batch error =>
          simp only [Session.turn, Session.resume, Handler.step, Handler.recorded]
          split <;> rfl
      | answering left result =>
          simp only [Session.turn, Session.resume, Handler.step, Handler.answered]
          split <;> rfl
  | timer wakeAt =>
      simp only [Session.turn, Session.resume, lingerStep]
      split <;> rfl
  | shutdown context closing => exact absurd rfl (apart context closing)

/-- As long as nothing goes wrong, a move leaves the context of the driver calls alone. -/
theorem Calm.backgroundEnded_step
    {session : Session Number}
    {move : Move}
    (calm : Calm session)
    (allowed : move.IsCalm) :
    (session.step move).subscription.backgroundEnded = session.subscription.backgroundEnded := by
  cases move with
  | shutdown context | drop => exact allowed.elim
  | complete place isAck => exact backgroundEnded_complete ..
  | turn place finding =>
      rw [Session.step]
      split
      next => rfl
      next activity found =>
        refine backgroundEnded_turn fun context closing same => ?_
        exact calm.unending context closing (same ▸ List.mem_of_getElem? found)
  | receive context =>
      rw [Session.step, Session.call]
      split <;> rfl
  | discard place =>
      rw [Session.step, Session.discard]
      split <;> rfl
  | abandon place =>
      rw [Session.step]
      split
      next => rfl
      next => split <;> rfl
  | cancel context | elapse nanos => rfl

/-! ## What was returned -/

section Answers

variable {session : Session Number}

/-- A move records an answer only if it is a turn that has found it. -/
theorem exists_of_mem_answers_step
    {move : Move}
    {answer : Nat × Nat × List Envelope}
    (member : answer ∈ (session.step move).answers) :
    answer ∈ session.answers ∨
      ∃ place finding,
        move = .turn place finding ∧ finding.fetched = .returned (.ok answer.2.2) := by
  obtain ⟨record, member, same⟩ := List.mem_filterMap.mp member
  obtain ⟨happened, records, known⟩ := exists_recorded_step session move
  rw [records, List.mem_append] at member
  rcases member with earlier | new
  · exact .inl (List.mem_filterMap.mpr ⟨record, earlier, same⟩)
  · right
    cases known _ new with
    | @turned place finding actor _ taken found made =>
        cases made with
        | @answered number place calls awaited =>
            refine ⟨_, finding, taken, ?_⟩
            unfold Record.answer? at same
            split at same
            next fetch place envelopes returned =>
              cases same
              injection returned
            next => contradiction
        | _ => contradiction
    | _ => contradiction

/-- As long as no call for messages comes to an answer, nothing is returned. -/
theorem brought_step_of_running
    {move : Move}
    (running : ∀ place finding, move = .turn place finding → finding.fetched = .running) :
    (session.step move).brought = session.brought := by
  obtain ⟨happened, records, known⟩ := exists_recorded_step session move
  have nothing : happened.filterMap Record.answer? = [] := by
    rw [List.filterMap_eq_nil_iff]
    intro record member
    cases known record member with
    | turned taken found made =>
        cases made with
        | answered awaited => rw [running _ _ taken]; rfl
        | _ => rfl
    | _ => rfl
  rw [Session.brought, Session.answers, records, List.filterMap_append, nothing, List.append_nil,
    ← Session.answers, ← Session.brought]

/-- What an awaited call for messages has returned is returned in the turn that finds it. -/
theorem brought_step_of_returned
    {place member number : Nat}
    {calls : Retry.Group Nat (List Envelope)}
    {finding : Finding}
    {envelopes : List Envelope}
    (found : session.activities[place]? = some (.fetch (.calling number calls)))
    (awaited : calls.awaited? = some member)
    (returned : finding.fetched = .returned (.ok envelopes)) :
    (session.step (.turn place finding)).brought = session.brought ++ envelopes := by
  have answered (next : Next Fetch Unit) :
      (Fetch.records finding.fetched (.calling number calls) next).filterMap Record.answer? =
        [(number, member, envelopes)] := by
    cases next <;> simp [Fetch.records, cameTo, awaited, returned]
  have asked (effects : List Effect) :
      (effects.map Record.asked).filterMap Record.answer? = [] := by
    simp [List.filterMap_map, Function.comp_def]
  rw [Session.step, found]
  simp [Session.turn, Session.resume, Session.brought, answered, asked]

end Answers

/-! ## Background receives -/

section Steps

variable {session : Session Number} {finding : Finding} {number : Nat}
  {calls : Retry.Group Nat (List Envelope)}

omit [Scalar Number] in
/-- What the driver calls of a background receive have returned has tokens. -/
theorem Calm.tokens_of_values
    (calm : Calm session)
    (gathering : Gathering session)
    (present : .fetch (.calling number calls) ∈ session.activities)
    {values : List (List Envelope)}
    (all : calls.values = values.map some) :
    ∀ envelope ∈ values.flatten, envelope.ackId.isSome = true := by
  intro envelope member
  obtain ⟨value, returned, inside⟩ := List.mem_flatten.mp member
  obtain ⟨place, here⟩ := List.mem_iff_getElem?.mp returned
  have fits : Answered session number calls.values :=
    gathering.fits (.calling number calls) (List.mem_filterMap.mpr ⟨_, present, rfl⟩)
  have answered : (number, place, value) ∈ session.answers :=
    (fits.answers place value).mp (by rw [all, List.getElem?_map, here]; rfl)
  exact calm.tokens envelope (List.mem_flatMap.mpr ⟨_, answered, inside⟩)

omit [Scalar Number] in
/-- A background receive at its driver calls stays there, or is about to store messages. -/
theorem Calm.tasks_calling
    (calm : Calm session)
    (gathering : Gathering session)
    (present : .fetch (.calling number calls) ∈ session.activities)
    (fine : finding.IsFine) :
    let next := (Fetch.step (session.moment finding) finding.fetched session.subscription
      (.calling number calls)).next
    (∃ later, next.tasks = [.calling number later]) ∨
      ∃ envelopes, next.tasks = [.storing number (.ok envelopes)] := by
  have unfailing : Retry.IsFine finding.fetched :=
    fine.imp_right fun ⟨envelopes, returned, _⟩ => ⟨envelopes, returned⟩
  have goesOn := calls.fails_step unfailing (fun _ => session.subscription.plan receiveOperation)
    (session.moment finding)
  have looked := calls.looked_step (fun _ => session.subscription.plan receiveOperation) false
    (session.moment finding) finding.fetched
  simp only [Fetch.step, calm.live]
  generalize calls.step _ _ _ _ = step at goesOn looked
  cases looked with
  | wait | «continue» | call | announce | returned => exact .inl ⟨_, rfl⟩
  | finish all =>
      dsimp only
      rw [checkFetched_of_tokens (calm.tokens_of_values gathering present all)]
      exact .inr ⟨_, rfl⟩
  | fail | crash => contradiction

omit [Scalar Number] in
/-- A task that was just started has not failed. -/
theorem not_storing_of_mem_startedBy
    {effects : List Effect}
    {error : Error} : .fetch (.storing number (.error error)) ∉ startedBy effects := by
  intro member
  obtain ⟨effect, -, same⟩ := List.mem_filterMap.mp member
  split at same <;> cases same

/-- As long as nothing goes wrong, no background receive comes to an error. -/
theorem Calm.sound_step
    {move : Move}
    (calm : Calm session)
    (gathering : Gathering session)
    (allowed : move.IsCalm)
    (error : Error) :
    .fetch (.storing number (.error error)) ∉ (session.step move).activities := by
  intro member
  cases arises_of_mem_step member with
  | stayed earlier => exact calm.flawless.sound number error earlier
  | called fresh => cases fresh
  | started new =>
      obtain ⟨effects, new, -⟩ := new
      exact not_storing_of_mem_startedBy new
  | @wentOn place finding actor taken found goesOn =>
      subst taken
      cases goesOn with
      | @fetch fetch _ later =>
          cases fetch with
          | calling other calls =>
              rcases calm.tasks_calling gathering (List.mem_of_getElem? found) allowed with
                ⟨after, tasks⟩ | ⟨envelopes, tasks⟩
              · simp [tasks] at later
              · simp [tasks] at later
          | storing other result => cases List.mem_singleton.mp later
          | waking other => contradiction

/-- As long as nothing goes wrong, no background receive ends abnormally. -/
theorem Calm.uncrashed_step
    {move : Move}
    (calm : Calm session)
    (gathering : Gathering session)
    (allowed : move.IsCalm) : .crashed number ∉ (session.step move).records := by
  intro member
  have new : ∀ known, .crashed number ∈ session.records ++ known → .crashed number ∈ known := by
    intro known member
    refine (List.mem_append.mp member).resolve_left fun earlier => ?_
    have crashed : number ∈ session.crashed := List.mem_filterMap.mpr ⟨_, earlier, rfl⟩
    rw [calm.flawless.uncrashed] at crashed
    contradiction
  obtain ⟨happened, records, known⟩ := exists_recorded_step session move
  cases known _ (new happened (records ▸ member)) with
  | @turned place finding actor _ taken found made =>
      cases made with
      | @crashed number calls reason =>
          subst taken
          have tasks := calm.tasks_calling gathering (List.mem_of_getElem? found) allowed
          rw [Session.step, found] at member
          rcases List.mem_append.mp (new _ member) with own | asked
          · rcases List.mem_append.mp own with came | ended
            · obtain ⟨place, -, same⟩ := mem_cameTo came
              contradiction
            · split at ended
              next result done => simp [done, Next.tasks] at tasks
              next => contradiction
          · simp at asked

/-- As long as nothing goes wrong, everything that is returned has a token. -/
theorem Calm.tokens_step
    {move : Move}
    (calm : Calm session)
    (allowed : move.IsCalm) :
    ∀ envelope ∈ (session.step move).brought, envelope.ackId.isSome = true := by
  intro envelope member
  obtain ⟨answer, answered, inside⟩ := List.mem_flatMap.mp member
  rcases exists_of_mem_answers_step answered with earlier | ⟨place, finding, rfl, returned⟩
  · exact calm.tokens envelope (List.mem_flatMap.mpr ⟨answer, earlier, inside⟩)
  · rcases allowed with running | ⟨envelopes, fetched, tokens⟩
    · rw [running] at returned
      contradiction
    · rw [fetched] at returned
      cases returned
      exact tokens envelope inside

/-- As long as nothing goes wrong, the driver is asked to acknowledge and nothing else. -/
theorem Calm.acks_step
    {move : Move}
    (calm : Calm session)
    (allowed : move.IsCalm) :
    ∀ request, .requested request ∈ (session.step move).fates → request.isAck = true := by
  intro request member
  cases handles_step session move with
  | gave unused messages delivered fates => exact calm.acks request (fates ▸ member)
  | @used place use message new present use_eq only meets messages delivered fates =>
      rw [fates, List.mem_append] at member
      rcases member with earlier | new
      · exact calm.acks request earlier
      · cases meets with
        | requested pending =>
            cases List.mem_singleton.mp new
            cases move with
            | complete other isAck =>
                rw [Move.use?] at use_eq
                split at use_eq
                next =>
                  cases use_eq
                  exact allowed
                next => contradiction
            | discard other =>
                rw [Move.use?] at use_eq
                split at use_eq <;> cases use_eq
            | _ => contradiction
        | lost | settled => contradiction
        | neglected => simp at new

/-- As long as nothing goes wrong, nobody shuts down. -/
theorem Calm.unending_step
    {move : Move}
    (calm : Calm session)
    (allowed : move.IsCalm)
    (context : Nat)
    (closing : Closing) : .shutdown context closing ∉ (session.step move).activities := by
  have unstarted (effects : List Effect) : .shutdown context closing ∉ startedBy effects := by
    intro started
    obtain ⟨effect, -, same⟩ := List.mem_filterMap.mp started
    split at same <;> cases same
  intro member
  cases move with
  | shutdown other | drop => exact allowed
  | turn place finding =>
      rw [Session.step] at member
      split at member
      next => exact calm.unending context closing member
      next actor found =>
        rcases mem_activities_turn member with ⟨effects, new, -⟩ | goesOn | stayed
        · exact unstarted effects new
        · cases goesOn with
          | shutdown => exact calm.unending _ _ (List.mem_of_getElem? found)
        · exact calm.unending context closing (List.mem_of_mem_eraseIdx stayed)
  | complete place isAck =>
      rw [Session.step, Session.complete] at member
      split at member
      next =>
        dsimp only at member
        split at member
        next =>
          rcases mem_activities_request member with ⟨effects, new, -⟩ | stayed
          · exact unstarted effects new
          · exact calm.unending context closing stayed
        next => exact calm.unending context closing member
      next => exact calm.unending context closing member
  | receive other =>
      rw [Session.step, Session.call] at member
      split at member
      next => exact calm.unending context closing member
      next => exact calm.unending context closing (by simpa using member)
  | discard place =>
      rw [Session.step, Session.discard] at member
      split at member <;> exact calm.unending context closing member
  | abandon place =>
      rw [Session.step] at member
      split at member
      next => exact calm.unending context closing member
      next =>
        split at member
        next => exact calm.unending context closing (List.mem_of_mem_eraseIdx member)
        next => exact calm.unending context closing member
  | cancel other | elapse nanos => exact calm.unending context closing member

/-- As long as nothing goes wrong, no background receive has come to an error. -/
theorem Calm.unlost_step
    (calm : Calm session)
    (move : Move)
    (error : Error) : .fetched number (.error error) ∉ (session.step move).records := by
  intro member
  obtain ⟨happened, records, known⟩ := exists_recorded_step session move
  rw [records, List.mem_append] at member
  rcases member with earlier | new
  · have lost : number ∈ session.lost := List.mem_filterMap.mpr ⟨_, earlier, rfl⟩
    rw [calm.flawless.unlost] at lost
    contradiction
  · cases known _ new with
    | turned taken found made =>
        cases made with
        | fetched => exact calm.flawless.sound number error (List.mem_of_getElem? found)

theorem Calm.step
    {move : Move}
    (calm : Calm session)
    (gathering : Gathering session)
    (allowed : move.IsCalm) : Calm (session.step move) where
  live := (calm.backgroundEnded_step allowed).trans calm.live
  unending := calm.unending_step allowed
  flawless :=
    { uncrashed := by
        rw [Session.crashed, List.filterMap_eq_nil_iff]
        intro record member
        cases record with
        | crashed number => exact absurd member (calm.uncrashed_step gathering allowed)
        | _ => rfl
      unlost := by
        rw [Session.lost, List.filterMap_eq_nil_iff]
        intro record member
        cases record with
        | fetched number result =>
            cases result with
            | ok envelopes => rfl
            | error error => exact absurd member (calm.unlost_step move error)
        | _ => rfl
      sound := fun _ => calm.sound_step gathering allowed }
  tokens := calm.tokens_step allowed
  acks := calm.acks_step allowed

end Steps

/-! ## Runs -/

section Runs

variable {setup : Setup Number} {moves : List Move}

theorem calm_sessionOf (calm : ∀ move ∈ moves, move.IsCalm) : Calm (sessionOf setup moves) := by
  induction moves using List.reverseRecOn with
  | nil =>
      refine ⟨rfl, by simp [sessionOf, Session.run, Setup.session], ?_, ?_, ?_⟩
      · exact ⟨rfl, rfl, by simp [sessionOf, Session.run, Setup.session]⟩
      · simp [sessionOf, Session.run, Setup.session, Session.brought]
      · simp [sessionOf, Session.run, Setup.session]
  | append_singleton moves move hypothesis =>
      rw [sessionOf_append_singleton]
      exact (hypothesis fun earlier member => calm earlier (List.mem_append_left _ member)).step
        (gathering_of_reached (reached_sessionOf setup moves)) (calm move (by simp))

/-- If nothing goes wrong, then every message that was returned left the queue, is queued, or is
held by a background receive. -/
theorem brought_perm (calm : ∀ move ∈ moves, move.IsCalm) :
    let session := sessionOf setup moves
    session.brought.Perm (session.popped ++ session.subscription.queue ++ session.held) := by
  intro session
  have reached : Reached setup session := reached_sessionOf setup moves
  rw [(conserved_of_reached reached).queue]
  exact isKept_of_reached reached (calm_sessionOf calm).flawless

/-- If nothing goes wrong, then the driver is asked to acknowledge messages, and never to refuse
any. -/
theorem isAck_of_sent
    (calm : ∀ move ∈ moves, move.IsCalm)
    (atLeastOnce : setup.atMostOnce = false)
    {batch : List (Entry AckRequest)}
    {place : Nat}
    {call : AckCall}
    (sent : .asked (.sendAcks batch place call) ∈ (sessionOf setup moves).records) :
    call.isAck = true := by
  obtain ⟨taken, present⟩ := (sending_sessionOf atLeastOnce moves).sent batch place call sent
  obtain ⟨ids, some⟩ := mem_callsOf.mp (List.mem_of_getElem? present)
  rw [ids] at some
  obtain ⟨id, told⟩ := List.exists_mem_of_ne_nil _ some
  obtain ⟨request, chosen, -⟩ := List.mem_map.mp told
  obtain ⟨inBatch, kind⟩ := List.mem_filter.mp chosen
  obtain ⟨entry, member, rfl⟩ := List.mem_map.mp inBatch
  have requested := requested_of_mem_taken atLeastOnce moves taken member
  rw [← beq_iff_eq.mp kind]
  exact (calm_sessionOf calm).acks _ requested

end Runs

end Subscription
end PubSub
