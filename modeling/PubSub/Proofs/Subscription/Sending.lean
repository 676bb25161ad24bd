import PubSub.Proofs.Subscription.Acknowledging
import PubSub.Proofs.Subscription.Completing
import PubSub.Proofs.Subscription.Disclosure

/-!
# What the driver is told about messages

The driver is told of a batch of acknowledgments by at most two calls: one with the tokens of the
acknowledged messages and one with those of the refused ones, each in the order of the batch.
Every attempt of a call passes the same tokens. A handler ends well only after both calls have.

Requests are put in batches in the order in which they are handed over, each under a number of its
own. Every token is that of the driver. A message without one is not stored, so that no receiver
gets it.
-/

namespace PubSub
namespace Subscription

variable {Number : Type}

/-! ## The calls of a batch -/

/-- The tokens of the messages of a batch that are acknowledged, or of those that are refused, in
the order of the batch. -/
def tokensOf (batch : List (Entry AckRequest)) (isAck : Bool) : List AckId :=
  ((batch.map Entry.item).filter (·.isAck == isAck)).map AckRequest.id

/-- The driver calls of a batch. -/
def callsOf (batch : List (Entry AckRequest)) : List AckCall := ackCalls (batch.map Entry.item)

theorem mem_callsOf {batch : List (Entry AckRequest)} {call : AckCall} :
    call ∈ callsOf batch ↔ call.ids = tokensOf batch call.isAck ∧ call.ids ≠ [] := by
  obtain ⟨isAck, ids⟩ := call
  have acks : ackIds (batch.map Entry.item) = tokensOf batch true := by
    simp [ackIds, tokensOf]
  have nacks : nackIds (batch.map Entry.item) = tokensOf batch false := by
    simp [nackIds, tokensOf]
  rw [callsOf, ackCalls, acks, nacks, List.mem_filter, List.mem_pair]
  cases isAck <;> simp

/-! ## Tokens -/

/-- Every message that is stored, or about to be stored, has a token of the driver. -/
structure Tokened (session : Session Number) : Prop where
  storing : ∀ number envelopes,
    .fetch (.storing number (.ok envelopes)) ∈ session.activities →
      ∀ envelope ∈ envelopes, envelope.ackId.isSome = true
  stored : ∀ number envelopes, .fetched number (.ok envelopes) ∈ session.records →
    ∀ envelope ∈ envelopes, envelope.ackId.isSome = true

/-- A background receive is about to store what was checked. -/
theorem exists_checked_of_step
    {moment : Moment}
    {answer : Answer (Except Fault (List Envelope))}
    {subscription : Subscription Number}
    {fetch : Fetch}
    {number : Nat}
    {envelopes : List Envelope}
    (goesOn : .storing number (.ok envelopes) ∈
      (fetch.step moment answer subscription).next.tasks) :
    ∃ fetched, subscription.checkFetched fetched = .ok envelopes := by
  cases fetch with
  | calling other calls =>
      unfold Fetch.step at goesOn
      dsimp only at goesOn
      split at goesOn
      case h_5 fetched =>
        have same := List.mem_singleton.mp goesOn
        injection same with _ checked
        exact ⟨_, checked.symm⟩
      all_goals simp [Next.tasks] at goesOn
  | storing other result => simp [Fetch.step, Next.tasks] at goesOn
  | waking other => contradiction

theorem isSome_ackId_of_checkFetched
    {subscription : Subscription Number}
    {fetched envelopes : List Envelope}
    (present : subscription.acks.isSome = true)
    (checked : subscription.checkFetched fetched = .ok envelopes) :
    ∀ envelope ∈ envelopes, envelope.ackId.isSome = true := by
  intro envelope member
  unfold checkFetched at checked
  split at checked
  next => contradiction
  next complete =>
    cases checked
    simp only [present, Bool.true_and, List.any_eq_true, not_exists, not_and] at complete
    exact Option.isSome_iff_ne_none.mpr (by simpa using complete envelope member)

section Tokens

variable [Scalar Number]

/-- As long as messages are acknowledged, none without a token is stored. -/
theorem Tokened.step
    {session : Session Number}
    (tokened : Tokened session)
    (present : session.subscription.acks.isSome = true)
    (move : Move) : Tokened (session.step move) where
  storing number envelopes member := by
    cases arises_of_mem_step member with
    | stayed earlier => exact tokened.storing number envelopes earlier
    | called fresh => cases fresh
    | started new =>
        obtain ⟨effects, new, -⟩ := new
        obtain ⟨effect, -, same⟩ := List.mem_filterMap.mp new
        split at same <;> cases same
    | wentOn taken found goesOn =>
        cases goesOn with
        | fetch later =>
            obtain ⟨fetched, checked⟩ := exists_checked_of_step later
            exact isSome_ackId_of_checkFetched present checked
  stored number envelopes member := by
    obtain ⟨happened, records, known⟩ := exists_recorded_step session move
    rw [records, List.mem_append] at member
    rcases member with earlier | new
    · exact tokened.stored number envelopes earlier
    · cases known _ new with
      | turned taken found made =>
          cases made with
          | fetched => exact tokened.storing number envelopes (List.mem_of_getElem? found)

variable {setup : Setup Number}

theorem acks_isSome_of_atLeastOnce
    (atLeastOnce : setup.atMostOnce = false)
    (moves : List Move) : (sessionOf setup moves).subscription.acks.isSome = true := by
  rw [acks_isSome_sessionOf, atLeastOnce]
  rfl

theorem tokened_sessionOf
    (atLeastOnce : setup.atMostOnce = false)
    (moves : List Move) : Tokened (sessionOf setup moves) := by
  refine sessionOf_induction (by exact ⟨by simp [Setup.session], by simp [Setup.session]⟩)
    (fun earlier move tokened => ?_) moves
  exact tokened.step (acks_isSome_of_atLeastOnce atLeastOnce earlier) move

/-- The message that left the queue as the receivers' message at a place has a token of the
driver, and the receiver has to complete it under this token. -/
theorem exists_token_of_delivered
    (atLeastOnce : setup.atMostOnce = false)
    (moves : List Move)
    {place : Nat}
    {message : Message}
    (delivered : (sessionOf setup moves).delivered[place]? = some message) :
    ∃ envelope id, (sessionOf setup moves).popped[place]? = some envelope ∧
      envelope.ackId = some id ∧ message = Message.ofEnvelope envelope (.request id) := by
  have conserved := conserved_of_reached (reached_sessionOf setup moves)
  rw [conserved.delivered, List.getElem?_map, Option.map_eq_some_iff] at delivered
  obtain ⟨envelope, popped, rfl⟩ := delivered
  have queued : envelope ∈ (sessionOf setup moves).stored.flatMap Prod.snd := by
    rw [← conserved.queue]
    exact List.mem_append_left _ (List.mem_of_getElem? popped)
  obtain ⟨⟨number, envelopes⟩, stored, member⟩ := List.mem_flatMap.mp queued
  obtain ⟨record, present, same⟩ := List.mem_filterMap.mp stored
  have fetched : record = .fetched number (.ok envelopes) := by
    cases record with
    | fetched other result => cases result <;> simp_all
    | _ => contradiction
  have token := (tokened_sessionOf atLeastOnce moves).stored number envelopes (fetched ▸ present)
    envelope member
  obtain ⟨id, some⟩ := Option.isSome_iff_exists.mp token
  refine ⟨envelope, id, popped, some, ?_⟩
  have acks : setup.subscription.acks.isSome = true := by
    rw [← conserved.acks]
    exact acks_isSome_of_atLeastOnce atLeastOnce moves
  rw [wrap, if_pos acks, ackIdOf, some]
  rfl

end Tokens

/-! ## Driver calls for a batch -/

/-- The driver was told of a batch by a call, and took it. -/
def Succeeded
    (records : List Record)
    (batch : List (Entry AckRequest))
    (place : Nat)
    (call : AckCall) : Prop :=
  [.asked (.sendAcks batch place call), .settled batch place (.returned (.ok ()))].Sublist records

/-- The driver calls that a handler makes are those of its batch, and it knows what they have come
to. -/
structure Informed
    (records : List Record)
    (batch : List (Entry AckRequest))
    (calls : Retry.Group AckCall Unit) : Prop where
  only : calls.MakesOnly (callsOf batch)
  called : ∀ (place : Nat) (call : AckCall) (failures : Nat),
    calls.members[place]? = some (.running call (.calling failures)) →
      .asked (.sendAcks batch place call) ∈ records
  succeeded : ∀ (place : Nat) (call : AckCall),
    calls.members[place]? = some (.succeeded ()) → (callsOf batch)[place]? = some call →
      Succeeded records batch place call

namespace Informed

variable {records : List Record} {batch : List (Entry AckRequest)}
  {calls later : Retry.Group AckCall Unit}

theorem asks (informed : Informed records batch calls) :
    calls.Asks (callsOf batch) fun place call => .asked (.sendAcks batch place call) ∈ records where
  toMakesOnly := informed.only
  called := informed.called

/-- A handler that is about to make its driver calls. -/
theorem ofRequests (records : List Record) (batch : List (Entry AckRequest)) :
    Informed records batch (.ofRequests (callsOf batch)) where
  only := .ofRequests _
  called := (Retry.Group.Asks.ofRequests (callsOf batch) _).called
  succeeded place call found _ := by
    rw [Retry.Group.ofRequests, List.getElem?_map, Option.map_eq_some_iff] at found
    obtain ⟨other, -, same⟩ := found
    cases same

/-- Another member is looked at. -/
theorem congr
    (informed : Informed records batch calls)
    (same : later.members = calls.members) : Informed records batch later where
  only := ⟨same ▸ informed.only.length, same ▸ informed.only.running⟩
  called := same ▸ informed.called
  succeeded := same ▸ informed.succeeded

/-- More has happened. -/
theorem mono
    (informed : Informed records batch calls)
    (happened : List Record) : Informed (records ++ happened) batch calls where
  only := informed.only
  called place call failures found :=
    List.mem_append_left _ (informed.called place call failures found)
  succeeded place call found present :=
    (informed.succeeded place call found present).trans (List.sublist_append_left ..)

/-- The member that is looked at has come to something else. -/
theorem setCurrent
    (informed : Informed records batch calls)
    {member : Retry.Member AckCall Unit}
    (same : ∀ call phase, member = .running call phase →
      (callsOf batch)[calls.place]? = some call)
    (called : ∀ call failures, member = .running call (.calling failures) →
      .asked (.sendAcks batch calls.place call) ∈ records)
    (succeeded : ∀ call, member = .succeeded () → (callsOf batch)[calls.place]? = some call →
      Succeeded records batch calls.place call) :
    Informed records batch (calls.setCurrent member) where
  only := informed.only.setCurrent same
  called := (informed.asks.setCurrent same called).called
  succeeded place call found present := by
    rw [Retry.Group.setCurrent, List.getElem?_set] at found
    split at found
    next here =>
      subst here
      split at found
      next => exact succeeded call (Option.some.inj found) present
      next => contradiction
    next => exact informed.succeeded place call found present

/-- A turn of the handler at its driver calls. -/
theorem turn
    (informed : Informed records batch calls)
    {moment : Moment}
    {answer : Answer (Except Fault Unit)}
    {subscription : Subscription Number}
    {turn : Turn (Subscription Number) Handler Unit Effect}
    (taken : (Handler.calling batch calls).step moment answer subscription = turn)
    {other : List (Entry AckRequest)}
    (goesOn : .calling other later ∈ turn.next.tasks) :
    other = batch ∧ Informed (records ++ (Handler.records answer (.calling batch calls) turn.next
      ++ turn.effects.map .asked)) batch later := by
  subst taken
  have moved := calls.moved_step (fun call => subscription.plan call.operation)
    subscription.backgroundEnded moment answer
  revert goesOn
  unfold Handler.step
  dsimp only
  generalize calls.step _ _ _ _ = step at moved
  intro goesOn
  cases moved with
  | passed | skipped =>
      cases List.mem_singleton.mp goesOn
      exact ⟨rfl, (informed.mono _).congr rfl⟩
  | @called call failures found live =>
      cases List.mem_singleton.mp goesOn
      refine ⟨rfl, (informed.mono _).setCurrent ?_ ?_ nofun⟩
      · rintro call phase ⟨⟩
        exact informed.only.running _ _ _ found
      · rintro call failures ⟨⟩
        simp
  | announced found | resumed found =>
      cases List.mem_singleton.mp goesOn
      refine ⟨rfl, (informed.mono _).setCurrent ?_ nofun nofun⟩
      rintro call phase ⟨⟩
      exact informed.only.running _ _ _ found
  | @returned request failures value found given =>
      cases List.mem_singleton.mp goesOn
      suffices noted : Informed _ batch (calls.setCurrent (.succeeded value)) from
        ⟨rfl, noted.congr rfl⟩
      refine (informed.mono _).setCurrent nofun nofun fun call _ present => ?_
      have made : call = request :=
        Option.some.inj (present.symm.trans (informed.only.running _ _ _ found))
      have asked := informed.called _ _ _ found
      have came : .settled batch calls.place (.returned (.ok ())) ∈
          cameTo calls.awaited? answer (.settled batch · answer) := by
        rw [given, Retry.Group.awaited?_of_calling found]
        exact .head _
      rw [made]
      exact (List.singleton_sublist.mpr asked).append (List.singleton_sublist.mpr
        (List.mem_append_left _ (List.mem_append_left _ came)))
  | finished | crashed => cases List.mem_singleton.mp goesOn
  | failed => cases List.mem_singleton.mp goesOn

end Informed

/-- A handler makes its driver calls after it has announced its batch. -/
theorem eq_of_calling_of_step
    {moment : Moment}
    {answer : Answer (Except Fault Unit)}
    {subscription : Subscription Number}
    {handler : Handler}
    {batch : List (Entry AckRequest)}
    {calls : Retry.Group AckCall Unit}
    (goesOn : .calling batch calls ∈ (handler.step moment answer subscription).next.tasks) :
    (handler = .announcing batch ∧ calls = .ofRequests (callsOf batch)) ∨
      ∃ other before, handler = .calling other before := by
  cases handler with
  | announcing other =>
      cases List.mem_singleton.mp goesOn
      exact .inl ⟨rfl, rfl⟩
  | calling other before => exact .inr ⟨other, before, rfl⟩
  | failing other error => cases List.mem_singleton.mp goesOn
  | answering left result =>
      unfold Handler.step Handler.answered Batcher.handOver at goesOn
      dsimp only at goesOn
      split at goesOn
      next => contradiction
      next =>
        split at goesOn
        next => cases List.mem_singleton.mp goesOn
        next =>
          split at goesOn
          next => cases List.mem_singleton.mp goesOn
          next => contradiction

/-- The driver is told of batches as it should be. -/
structure Sending (session : Session Number) : Prop where
  calling : ∀ batch calls, .handler (.calling batch calls) ∈ session.activities →
    Informed session.records batch calls
  sent : ∀ batch place call, .asked (.sendAcks batch place call) ∈ session.records →
    batch ∈ session.taken ∧ (callsOf batch)[place]? = some call
  handled : ∀ batch, .handled batch (.ok ()) ∈ session.records →
    ∀ (place : Nat) (call : AckCall), (callsOf batch)[place]? = some call →
      Succeeded session.records batch place call

/-- If all calls of a handler have come to a value, then all have succeeded. -/
theorem Informed.succeeded_of_values
    {records : List Record}
    {batch : List (Entry AckRequest)}
    {calls : Retry.Group AckCall Unit}
    (informed : Informed records batch calls)
    {values : List Unit}
    (all : calls.values = values.map some)
    {place : Nat}
    {call : AckCall}
    (present : (callsOf batch)[place]? = some call) : Succeeded records batch place call := by
  obtain ⟨bound, -⟩ := List.getElem?_eq_some_iff.mp present
  rw [← informed.only.length] at bound
  have found := List.getElem?_eq_getElem bound
  generalize calls.members[place] = member at found
  cases member with
  | succeeded value => exact informed.succeeded place call found present
  | running request phase =>
      have unfinished : none ∈ calls.values :=
        List.mem_map.mpr ⟨_, List.mem_of_getElem? found, rfl⟩
      rw [all] at unfinished
      simp at unfinished

section Sending

variable [Scalar Number]

/-- A move keeps it so, if the handlers that make driver calls have their batches from the queue. -/
theorem Sending.step
    {session : Session Number}
    (sending : Sending session)
    (taken : ∀ batch calls, .handler (.calling batch calls) ∈ session.activities →
      batch ∈ session.taken)
    (move : Move) : Sending (session.step move) := by
  obtain ⟨happened, records, known⟩ := exists_recorded_step session move
  have lasting : session.taken ⊆ (session.step move).taken := by
    intro batch member
    rw [Session.taken, records, List.filterMap_append]
    exact List.mem_append_left _ member
  refine ⟨fun batch calls member => ?calling, fun batch place call member => ?sent,
    fun batch member place call present => ?handled⟩
  case calling =>
    cases arises_of_mem_step member with
    | stayed earlier =>
        rw [records]
        exact (sending.calling batch calls earlier).mono happened
    | called fresh => cases fresh
    | started new =>
        obtain ⟨effects, new, -⟩ := new
        obtain ⟨effect, -, same⟩ := List.mem_filterMap.mp new
        split at same <;> cases same
    | @wentOn place finding actor moves found goesOn =>
        subst moves
        cases goesOn with
        | @handler handler _ later =>
            rw [Session.step, found]
            obtain ⟨rfl, rfl⟩ | ⟨other, before, rfl⟩ := eq_of_calling_of_step later
            · exact .ofRequests _ batch
            · obtain ⟨rfl, informed⟩ :=
                (sending.calling other before (List.mem_of_getElem? found)).turn rfl later
              exact informed
  case sent =>
    rw [records, List.mem_append] at member
    rcases member with earlier | new
    · exact (sending.sent batch place call earlier).imp_left (lasting ·)
    · cases known _ new with
      | turned moves found made =>
          cases made with
          | sent live running =>
              have present := List.mem_of_getElem? found
              exact ⟨lasting (taken _ _ present),
                (sending.calling _ _ present).only.running _ _ _ running⟩
  case handled =>
    rw [records] at member ⊢
    rcases List.mem_append.mp member with earlier | new
    · exact (sending.handled batch earlier place call present).trans
        (List.sublist_append_left ..)
    · cases known _ new with
      | turned moves found made =>
          cases made with
          | gave all =>
              obtain ⟨values, whole⟩ := all rfl
              exact ((sending.calling _ _ (List.mem_of_getElem? found)).succeeded_of_values whole
                present).trans (List.sublist_append_left ..)

omit [Scalar Number] in
/-- A handler that makes driver calls has its batch from the queue. -/
theorem Mirrored.mem_taken_of_calling
    {session : Session Number}
    {batching : Batcher.Session AckRequest}
    (mirrored : Mirrored session batching)
    (tallied : Batcher.Tallied batching)
    {batch : List (Entry AckRequest)}
    {calls : Retry.Group AckCall Unit}
    (works : .handler (.calling batch calls) ∈ session.activities) : batch ∈ session.taken := by
  have mirror : Batcher.Activity.handler (.working batch) ∈ batching.activities :=
    mirrored.activities.mem_iff.mp (List.mem_filterMap.mpr ⟨_, works, rfl⟩)
  have working : batch ∈ batching.working := List.mem_filterMap.mpr ⟨_, mirror, rfl⟩
  have called := tallied.perm_called.mem_iff.mp (List.mem_append_right _ working)
  rw [← mirrored.taken_eq]
  exact tallied.mem_taken_of_called called

variable {setup : Setup Number}

theorem sending_sessionOf
    (atLeastOnce : setup.atMostOnce = false)
    (moves : List Move) : Sending (sessionOf setup moves) := by
  refine sessionOf_induction
    (by exact ⟨by simp [Setup.session], by simp [Setup.session], by simp [Setup.session]⟩)
    (fun earlier move sending => ?_) moves
  obtain ⟨batching, reached, mirrored⟩ := exists_mirrored atLeastOnce earlier
  exact sending.step
    (fun _ _ works => mirrored.mem_taken_of_calling (Batcher.tallied_of_reached reached) works) move

/-- The requests of a batch were handed to the acknowledgments. -/
theorem requested_of_mem_taken
    (atLeastOnce : setup.atMostOnce = false)
    (moves : List Move)
    {batch : List (Entry AckRequest)}
    (taken : batch ∈ (sessionOf setup moves).taken)
    {entry : Entry AckRequest}
    (member : entry ∈ batch) : .requested entry.item ∈ (sessionOf setup moves).fates := by
  obtain ⟨acks, some⟩ := Option.isSome_iff_exists.mp (acks_isSome_of_atLeastOnce atLeastOnce moves)
  have accepted : entry ∈ (sessionOf setup moves).accepted := by
    rw [← (taken_append_pending atLeastOnce moves some).1]
    exact List.mem_append_left _ (List.mem_flatten.mpr ⟨batch, taken, member⟩)
  obtain ⟨record, recorded, same⟩ := List.mem_filterMap.mp accepted
  refine List.mem_filterMap.mpr ⟨record, recorded, ?_⟩
  cases record with
  | accepted other =>
      cases same
      rfl
  | _ => contradiction

/-- Every token that the driver is told is one that it has put on a message. -/
theorem exists_popped_of_sent
    (atLeastOnce : setup.atMostOnce = false)
    (moves : List Move)
    {batch : List (Entry AckRequest)}
    {place : Nat}
    {call : AckCall}
    (sent : .asked (.sendAcks batch place call) ∈ (sessionOf setup moves).records)
    {id : AckId}
    (told : id ∈ call.ids) :
    ∃ envelope ∈ (sessionOf setup moves).popped, envelope.ackId = some id := by
  obtain ⟨taken, present⟩ := (sending_sessionOf atLeastOnce moves).sent batch place call sent
  rw [(mem_callsOf.mp (List.mem_of_getElem? present)).1] at told
  obtain ⟨request, chosen, rfl⟩ := List.mem_map.mp told
  obtain ⟨entry, member, rfl⟩ := List.mem_map.mp (List.mem_filter.mp chosen).1
  obtain ⟨message, delivered, pending⟩ := exists_delivered_of_requested setup moves
    (requested_of_mem_taken atLeastOnce moves taken member)
  obtain ⟨index, found⟩ := List.mem_iff_getElem?.mp delivered
  obtain ⟨envelope, id, popped, token, rfl⟩ := exists_token_of_delivered atLeastOnce moves found
  cases pending
  exact ⟨envelope, List.mem_of_getElem? popped, token⟩

end Sending

/-- Under delivery at least once, the first use of a message decides what becomes of it. The
requests that were handed over, and no others, are put in batches in their order. The driver is told
nothing but the tokens of such batches, and has taken all of them when the handler of a batch ends
well. -/
theorem driver_told_as_completed
    [Scalar Number]
    (setup : Setup Number)
    (atLeastOnce : setup.atMostOnce = false)
    (moves : List Move) :
    let session := sessionOf setup moves
    (∀ place message, session.delivered[place]? = some message →
      ∃ envelope id, session.popped[place]? = some envelope ∧ envelope.ackId = some id ∧
        message = Message.ofEnvelope envelope (.request id) ∧
        Becomes id (setup.session.usesOf place moves) (setup.session.fatesOf place moves)) ∧
    (∀ move, (∀ place, session.use? place move = none) →
      (session.step move).fates = session.fates) ∧
    (∃ acks, session.subscription.acks = some acks ∧
      session.taken.flatten ++ acks.pending = session.accepted ∧
      (session.accepted.map Entry.id).Nodup) ∧
    (∀ batch place call, .asked (.sendAcks batch place call) ∈ session.records →
      batch ∈ session.taken ∧ call.ids = tokensOf batch call.isAck ∧ call.ids ≠ []) ∧
    (∀ batch isAck, (batch, .ok ()) ∈ session.handled → tokensOf batch isAck ≠ [] →
      ∃ place, Succeeded session.records batch place ⟨isAck, tokensOf batch isAck⟩) ∧
    (∀ batch place call id, .asked (.sendAcks batch place call) ∈ session.records →
      id ∈ call.ids → ∃ envelope ∈ session.popped, envelope.ackId = some id) := by
  intro session
  have sending : Sending session := sending_sessionOf atLeastOnce moves
  refine ⟨fun place message delivered => ?becomes, fun move => fates_step_of_unused, ?queued,
    fun batch place call sent => ?told, fun batch isAck handled some => ?succeeded,
    fun batch place call id sent told => exists_popped_of_sent atLeastOnce moves sent told⟩
  case becomes =>
    obtain ⟨envelope, id, popped, token, rfl⟩ :=
      exists_token_of_delivered atLeastOnce moves delivered
    exact ⟨envelope, id, popped, token, rfl,
      (used_sessionOf setup place moves).becomes delivered rfl⟩
  case queued =>
    obtain ⟨acks, present⟩ :=
      Option.isSome_iff_exists.mp (acks_isSome_of_atLeastOnce atLeastOnce moves)
    exact ⟨acks, present, taken_append_pending atLeastOnce moves present⟩
  case told =>
    obtain ⟨taken, present⟩ := sending.sent batch place call sent
    exact ⟨taken, mem_callsOf.mp (List.mem_of_getElem? present)⟩
  case succeeded =>
    obtain ⟨record, member, same⟩ := List.mem_filterMap.mp handled
    have ended : .handled batch (.ok ()) ∈ session.records := by
      cases record with
      | handled other result =>
          cases same
          exact member
      | _ => contradiction
    have made : ⟨isAck, tokensOf batch isAck⟩ ∈ callsOf batch := mem_callsOf.mpr ⟨rfl, some⟩
    obtain ⟨place, present⟩ := List.mem_iff_getElem?.mp made
    exact ⟨place, sending.handled batch ended place _ present⟩

/-- A message was acknowledged, and the driver has taken its token. -/
theorem driver_told_of_acknowledged :
    let batch : List (Entry AckRequest) := [{ id := 0, item := ⟨.number 0, true⟩, size := 0 }]
    let session := sessionOf .exact
      (acknowledging ++ [.turn 0 { settled := .returned (.ok ()) }] ++ turns 2)
    Setup.exact.atMostOnce = false ∧ session.handled = [(batch, .ok ())] ∧
      ∃ place, Succeeded session.records batch place ⟨true, [.number 0]⟩ := by
  intro batch session
  have handled : session.handled = [(batch, .ok ())] := by decide +kernel
  have told := driver_told_as_completed .exact rfl
    (acknowledging ++ [.turn 0 { settled := .returned (.ok ()) }] ++ turns 2)
  refine ⟨rfl, handled, told.2.2.2.2.1 batch true ?_ (by decide)⟩
  show (batch, .ok ()) ∈ session.handled
  rw [handled]
  exact .head _

end Subscription
end PubSub
