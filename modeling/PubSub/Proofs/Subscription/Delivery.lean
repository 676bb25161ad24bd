import PubSub.Proofs.Subscription.Waking

/-!
# Every message that was fetched is delivered once

Messages enter the queue of a subscription at its end, when the result of a background receive
is stored, and leave it at its front, one for each receiver that is answered with a message. So
what left the queue and what is in it make up what was stored, in this order.

What a background receive stores are the messages that its driver calls returned, in the order
of the calls. `Answered` follows the calls from their start until the result is stored.
-/

namespace PubSub
namespace Subscription

variable {Number : Type}

/-! ## The queue -/

/-- The message a receiver gets depends on how messages are completed, and on nothing else. -/
theorem wrap_eq_of_isSome_acks_eq
    {one other : Subscription Number}
    (same : one.acks.isSome = other.acks.isSome)
    (envelope : Envelope) : one.wrap envelope = other.wrap envelope := by
  rw [wrap, wrap, same]

theorem popped?_of_isMinor (record : Record) (minor : record.isMinor = true) :
    record.popped? = none := by
  cases record <;> simp_all

theorem delivered?_of_isMinor (record : Record) (minor : record.isMinor = true) :
    record.delivered? = none := by
  cases record <;> simp_all

theorem stored?_of_isMinor (record : Record) (minor : record.isMinor = true) :
    record.stored? = none := by
  cases record <;> simp_all

/-- What left the queue was delivered, and makes up what was stored together with the queue. -/
structure Conserved (setup : Setup Number) [Scalar Number] (session : Session Number) : Prop where
  acks : session.subscription.acks.isSome = setup.subscription.acks.isSome
  queue : session.popped ++ session.subscription.queue = session.stored.flatMap Prod.snd
  delivered : session.delivered = session.popped.map setup.subscription.wrap

namespace Conserved

attribute [local simp] List.filterMap_cons

variable [Scalar Number] {setup : Setup Number} {before after : Session Number}

theorem create (setup : Setup Number) : Conserved setup setup.session where
  acks := rfl
  queue := rfl
  delivered := rfl

/-- The queue and what was recorded about it are the same. -/
theorem congr
    (conserved : Conserved setup before)
    (acks : after.subscription.acks.isSome = before.subscription.acks.isSome)
    (queue : after.subscription.queue = before.subscription.queue)
    (popped : after.popped = before.popped)
    (delivered : after.delivered = before.delivered)
    (stored : after.stored = before.stored) : Conserved setup after where
  acks := acks.trans conserved.acks
  queue := by rw [popped, queue, stored, conserved.queue]
  delivered := by rw [delivered, popped, conserved.delivered]

/-- Minor records are not about the queue. -/
theorem minor
    (conserved : Conserved setup before)
    (acks : after.subscription.acks.isSome = before.subscription.acks.isSome)
    (queue : after.subscription.queue = before.subscription.queue)
    {happened : List Record}
    (records : after.records = before.records ++ happened)
    (minor : ∀ record ∈ happened, record.isMinor = true) : Conserved setup after :=
  conserved.congr acks queue
    ((congrArg _ records).trans (filterMap_append_of_isMinor popped?_of_isMinor _ minor))
    ((congrArg _ records).trans (filterMap_append_of_isMinor delivered?_of_isMinor _ minor))
    ((congrArg _ records).trans (filterMap_append_of_isMinor stored?_of_isMinor _ minor))

theorem change (change : Change before after) (conserved : Conserved setup before) :
    Conserved setup after := by
  cases change with
  | @delivered context envelope rest others split untroubled queued =>
      have wraps := wrap_eq_of_isSome_acks_eq conserved.acks envelope
      refine ⟨conserved.acks, ?_, ?_⟩
      · have whole := conserved.queue
        rw [queued] at whole
        simpa using whole
      · simpa [wraps] using conserved.delivered
  | @stored number result others split estimator =>
      refine ⟨conserved.acks, ?_, ?_⟩
      · have whole := conserved.queue
        cases result with
        | ok envelopes =>
            have longer := congrArg (· ++ envelopes) whole
            simpa using longer
        | error error => simpa using whole
      · cases result <;> simpa using conserved.delivered
  | looked split same minor => exact conserved.minor rfl rfl rfl minor
  | acked split gone_acking new_acking present minor => exact conserved.minor present rfl rfl minor
  | prefetched | returned | crashed | recorded | ignored | told | gaveUp | closed | refused
  | ended =>
      exact conserved.congr rfl rfl (by simp) (by simp) (by simp)
  | waited | foundEmpty | resumed | gathered | lost | woke | began | flushed | arrived | left
  | reordered | cancelled | elapsed | dropped => exact conserved.congr rfl rfl rfl rfl rfl

end Conserved

/-! ## The driver calls of a background receive -/

/-- A driver call that returned messages: the number of its background receive, its place and
the messages. -/
@[simp] def Record.answer? : Record → Option (Nat × Nat × List Envelope)
  | .answered fetch place (.returned (.ok envelopes)) => some (fetch, place, envelopes)
  | _ => none

/-- A background receive that was started, with the sizes of its driver calls. -/
@[simp] def Record.started? : Record → Option (Nat × List Nat)
  | .asked (.startFetch number sizes) => some (number, sizes)
  | _ => none

@[simp] def Activity.fetch? : Activity → Option Fetch
  | .fetch task => some task
  | _ => none

namespace Session

variable (session : Session Number)

/-- The driver calls that returned messages, oldest first. -/
@[simp] def answers : List (Nat × Nat × List Envelope) :=
  session.records.filterMap Record.answer?

/-- The background receives that were started, oldest first. -/
@[simp] def started : List (Nat × List Nat) := session.records.filterMap Record.started?

/-- The background receives at work. -/
@[simp] def fetches : List Fetch := session.activities.filterMap Activity.fetch?

end Session

/-- What the driver calls of a background receive have come to, in the order of the calls. -/
structure Answered
    (session : Session Number)
    (number : Nat)
    (values : List (Option (List Envelope))) : Prop where
  started : ∃ sizes, (number, sizes) ∈ session.started ∧ values.length = sizes.length
  answers : ∀ place envelopes,
    values[place]? = some (some envelopes) ↔ (number, place, envelopes) ∈ session.answers

/-- All driver calls of a background receive returned messages; these are all of them. -/
def Complete (session : Session Number) (number : Nat) (envelopes : List Envelope) : Prop :=
  ∃ values : List (List Envelope),
    Answered session number (values.map some) ∧ values.flatten = envelopes

/-- A background receive knows what its driver calls have come to. -/
def Fetch.Fits (session : Session Number) : Fetch → Prop
  | .calling number calls => Answered session number calls.values
  | .storing number (.ok envelopes) => Complete session number envelopes
  | .storing _ (.error _) => True
  | .waking _ => True

/-- All background receives know what their driver calls have come to, and what was stored is
what the driver calls returned. -/
structure Gathering (session : Session Number) : Prop where
  known : ∀ answer ∈ session.answers, answer.1 < session.subscription.fetches
  fits : ∀ fetch ∈ session.fetches, fetch.Fits session
  stored : ∀ result ∈ session.stored, Complete session result.1 result.2

theorem answer?_of_isMinor (record : Record) (minor : record.isMinor = true) :
    record.answer? = none := by
  cases record with
  | answered fetch place answer =>
      cases answer with
      | returned result => cases result <;> simp_all
      | _ => rfl
  | _ => rfl

theorem started?_of_isMinor (record : Record) (minor : record.isMinor = true) :
    record.started? = none := by
  cases record with
  | asked effect => cases effect <;> simp_all
  | _ => rfl

theorem fetch?_of_isAcking (activity : Activity) (acking : activity.IsAcking) :
    activity.fetch? = none := by
  cases acking <;> rfl

variable {before after : Session Number}

/-- What is known about one background receive remains known while others go on. -/
theorem Answered.mono
    {number : Nat}
    {values : List (Option (List Envelope))}
    (answered : Answered before number values)
    (started : before.started ⊆ after.started)
    (answers : ∀ place envelopes,
      (number, place, envelopes) ∈ after.answers ↔ (number, place, envelopes) ∈ before.answers) :
    Answered after number values where
  started := by
    obtain ⟨sizes, begun, length⟩ := answered.started
    exact ⟨sizes, started begun, length⟩
  answers place envelopes := by rw [answers, answered.answers]

theorem Complete.mono
    {number : Nat}
    {envelopes : List Envelope}
    (complete : Complete before number envelopes)
    (started : before.started ⊆ after.started)
    (answers : ∀ place envelopes,
      (number, place, envelopes) ∈ after.answers ↔ (number, place, envelopes) ∈ before.answers) :
    Complete after number envelopes := by
  obtain ⟨values, answered, whole⟩ := complete
  exact ⟨values, answered.mono started answers, whole⟩

theorem Fetch.Fits.mono
    {fetch : Fetch}
    (fits : fetch.Fits before)
    (started : before.started ⊆ after.started)
    (answers : after.answers = before.answers) : fetch.Fits after := by
  cases fetch with
  | calling number calls => exact Answered.mono fits started fun _ _ => by rw [answers]
  | storing number result =>
      cases result with
      | ok envelopes => exact Complete.mono fits started fun _ _ => by rw [answers]
      | error error => trivial
  | waking number => trivial

/-- Messages that were checked are the messages. -/
theorem eq_of_checkFetched_eq_ok
    {subscription : Subscription Number}
    {fetched envelopes : List Envelope}
    (checked : subscription.checkFetched fetched = .ok envelopes) : envelopes = fetched := by
  unfold checkFetched at checked
  split at checked
  next => contradiction
  next => exact (Except.ok.inj checked).symm

theorem fits_checkFetched
    {number : Nat}
    {values : List (List Envelope)}
    (answered : Answered before number (values.map some))
    (subscription : Subscription Number) :
    (Fetch.storing number (subscription.checkFetched values.flatten)).Fits before := by
  cases checked : subscription.checkFetched values.flatten with
  | error error => trivial
  | ok envelopes => exact ⟨values, answered, (eq_of_checkFetched_eq_ok checked).symm⟩

/-- A driver call that is noted. -/
theorem Answered.returned
    {number place : Nat}
    {values later : List (Option (List Envelope))}
    {envelopes : List Envelope}
    (answered : Answered before number values)
    (unknown : values[place]? = some none)
    (known : later = values.set place (some envelopes))
    (started : after.started = before.started)
    (answers : after.answers = before.answers ++ [(number, place, envelopes)]) :
    Answered after number later where
  started := by
    obtain ⟨sizes, begun, length⟩ := answered.started
    exact ⟨sizes, started ▸ begun, by rw [known, List.length_set, length]⟩
  answers other value := by
    rw [known, answers, List.mem_append, List.mem_singleton, ← answered.answers]
    by_cases same : other = place
    · subst same
      obtain ⟨bound, _⟩ := List.getElem?_eq_some_iff.mp unknown
      rw [List.getElem?_set_self bound, unknown]
      simp [eq_comm]
    · rw [List.getElem?_set_ne (Ne.symm same)]
      simp [same]

/-- If nothing is in flight, background receives at work are about to wake receivers. -/
theorem eq_waking_of_nobody
    {activities : List Activity}
    {fetch : Fetch}
    (nobody : activities.filterMap Activity.inFlight? = [])
    (works : fetch ∈ activities.filterMap Activity.fetch?) : ∃ number, fetch = .waking number := by
  obtain ⟨activity, member, same⟩ := List.mem_filterMap.mp works
  have quiet := List.filterMap_eq_nil_iff.mp nobody activity member
  cases activity with
  | fetch task =>
      cases task with
      | waking number => exact ⟨number, (Option.some.inj same).symm⟩
      | _ => contradiction
  | _ => contradiction

theorem mem_fetched_of_mem_stored
    {result : Nat × List Envelope}
    (stored : result ∈ before.stored) : result.1 ∈ before.fetched := by
  obtain ⟨record, member, same⟩ := List.mem_filterMap.mp stored
  refine List.mem_filterMap.mpr ⟨record, member, ?_⟩
  cases record with
  | fetched number outcome =>
      cases outcome with
      | ok envelopes => rw [← Option.some.inj same]; rfl
      | error error => contradiction
  | _ => contradiction

/-- Another background receive takes the place of one. -/
theorem mem_of_mem_replaced
    {one other : Fetch}
    {rest : List Fetch}
    (fits : other.Fits before) :
    ∀ fetch ∈ other :: rest, fetch ∈ one :: rest ∨ fetch.Fits before := by
  intro fetch member
  rcases List.mem_cons.mp member with rfl | earlier
  · exact .inr fits
  · exact .inl (List.mem_cons_of_mem _ earlier)

namespace Gathering

attribute [local simp] List.filterMap_cons

/-- No driver call has come to anything. What is new is known, or was there before. -/
theorem mono
    (gathering : Gathering before)
    (numbers : before.subscription.fetches ≤ after.subscription.fetches)
    (started : before.started ⊆ after.started)
    (answers : after.answers = before.answers)
    (fits : ∀ fetch ∈ after.fetches, fetch ∈ before.fetches ∨ fetch.Fits after)
    (stored : ∀ result ∈ after.stored,
      result ∈ before.stored ∨ Complete before result.1 result.2) : Gathering after where
  known answer member :=
    Nat.lt_of_lt_of_le (gathering.known answer (answers ▸ member)) numbers
  fits fetch member := by
    rcases fits fetch member with earlier | known
    · exact (gathering.fits fetch earlier).mono started answers
    · exact known
  stored result member := by
    have complete : Complete before result.1 result.2 :=
      (stored result member).elim (gathering.stored result) id
    exact complete.mono started fun _ _ => by rw [answers]

/-- Nothing was started, and nothing was stored. -/
theorem congr
    (gathering : Gathering before)
    (numbers : after.subscription.fetches = before.subscription.fetches)
    (started : after.started = before.started)
    (answers : after.answers = before.answers)
    (stored : after.stored = before.stored)
    (fits : ∀ fetch ∈ after.fetches, fetch ∈ before.fetches ∨ fetch.Fits before) :
    Gathering after := by
  have known : before.started ⊆ after.started := by
    rw [started]
    exact List.Subset.refl _
  refine gathering.mono (Nat.le_of_eq numbers.symm) known answers ?_ ?_
  · intro fetch member
    exact (fits fetch member).imp_right fun earlier => earlier.mono known answers
  · intro result member
    exact .inl (stored ▸ member)

theorem perm
    {activities : List Activity}
    (same : before.activities.Perm activities)
    (gathering : Gathering before) : Gathering { before with activities } :=
  gathering.congr rfl rfl rfl rfl fun _ member => .inl ((same.filterMap _).mem_iff.mpr member)

/-- A driver call has returned messages. No other background receive is at its driver calls or
about to store, because there is only one in flight. -/
theorem returned
    {number place : Nat}
    {calls later : Retry.Group Nat (List Envelope)}
    {envelopes : List Envelope}
    {others : List Activity}
    (gathering : Gathering before)
    (tracked : Tracked before)
    (working : before.activities = .fetch (.calling number calls) :: others)
    (works : after.activities = .fetch (.calling number later) :: others)
    (unknown : calls.values[place]? = some none)
    (values : later.values = calls.values.set place (some envelopes))
    (numbers : after.subscription.fetches = before.subscription.fetches)
    (started : after.started = before.started)
    (answers : after.answers = before.answers ++ [(number, place, envelopes)])
    (stored : after.stored = before.stored) : Gathering after := by
  obtain ⟨noted, nobody, _⟩ := tracked.alone
    (show before.inFlight = number :: others.filterMap Activity.inFlight? by
      rw [Session.inFlight, working]; rfl)
  have answered : Answered before number calls.values :=
    gathering.fits (.calling number calls) (by rw [Session.fetches, working]; exact .head _)
  refine ⟨?known, ?fits, ?stored⟩
  case known =>
    intro answer member
    rw [answers, List.mem_append, List.mem_singleton] at member
    rw [numbers]
    rcases member with earlier | rfl
    · exact gathering.known answer earlier
    · exact tracked.started number noted
  case fits =>
    intro fetch member
    rw [Session.fetches, works] at member
    rcases List.mem_cons.mp member with rfl | other
    · exact answered.returned unknown values started answers
    · obtain ⟨waking, rfl⟩ := eq_waking_of_nobody nobody other
      trivial
  case stored =>
    intro result member
    have earlier : result ∈ before.stored := stored ▸ member
    have ended := tracked.fetched result.1 (mem_fetched_of_mem_stored earlier)
    have other : result.1 ≠ number := fun same =>
      (tracked.finished result.1 ended).cleared (same ▸ noted)
    refine (gathering.stored result earlier).mono (by rw [started]; exact List.Subset.refl _) ?_
    intro place envelopes
    rw [answers, List.mem_append, List.mem_singleton, Prod.mk.injEq]
    exact or_iff_left fun same => other same.1

/-- Nothing is known about the driver calls of a background receive that was just started. -/
theorem answered_ofRequests
    (gathering : Gathering before)
    {sizes : List Nat}
    (started : (before.subscription.fetches, sizes) ∈ after.started)
    (answers : after.answers = before.answers) :
    Answered after before.subscription.fetches
      (Retry.Group.ofRequests sizes : Retry.Group Nat (List Envelope)).values where
  started := ⟨sizes, started, by simp⟩
  answers place envelopes := by
    have unknown : (before.subscription.fetches, place, envelopes) ∉ after.answers := by
      intro earlier
      exact Nat.lt_irrefl _ (gathering.known _ (answers ▸ earlier))
    simp only [unknown, iff_false]
    rw [Retry.Group.values_ofRequests, List.getElem?_replicate]
    split <;> simp

variable [Scalar Number]

theorem create (setup : Setup Number) : Gathering setup.session where
  known := by simp [Setup.session]
  fits := by simp [Setup.session]
  stored := by simp [Setup.session]

theorem change
    (change : Change before after)
    (tracked : Tracked before)
    (gathering : Gathering before) : Gathering after := by
  cases change with
  | @prefetched size estimator idle sized =>
      refine gathering.mono (Nat.le_succ _) (by simp) (by simp) ?_ ?_
      · intro fetch member
        rcases List.mem_cons.mp member with rfl | earlier
        · exact .inr (gathering.answered_ofRequests (by simp) (by simp))
        · exact .inl earlier
      · intro result member
        rw [Session.stored, List.filterMap_append] at member
        exact .inl (by simpa using member)
  | delivered split | told split | resumed split | flushed split | ended split | refused split
  | began split | recorded split | ignored split | closed split | gaveUp split | waited split =>
      exact (gathering.perm split).congr rfl (by simp) (by simp) (by simp) (fun _ => .inl)
  | crashed split | woke split =>
      exact (gathering.perm split).congr rfl (by simp) (by simp) (by simp)
        (fun _ member => .inl (List.mem_cons_of_mem _ member))
  | @looked number calls later others happened split same minor =>
      have started := filterMap_append_of_isMinor started?_of_isMinor before.records minor
      have answers := filterMap_append_of_isMinor answer?_of_isMinor before.records minor
      have stored := filterMap_append_of_isMinor stored?_of_isMinor before.records minor
      have answered : Answered _ number calls.values :=
        (gathering.perm split).fits (.calling number calls) (.head _)
      refine (gathering.perm split).congr rfl started answers stored (mem_of_mem_replaced ?_)
      show Answered _ number later.values
      rw [same]
      exact answered
  | returned split unknown values =>
      exact (gathering.perm split).returned (tracked.perm split) rfl rfl unknown values rfl
        (by simp) (by simp) (by simp)
  | @gathered number calls values others split all =>
      have answered : Answered _ number calls.values :=
        (gathering.perm split).fits (.calling number calls) (.head _)
      refine (gathering.perm split).congr rfl rfl rfl rfl (mem_of_mem_replaced ?_)
      exact fits_checkFetched (all ▸ answered) before.subscription
  | lost split =>
      exact (gathering.perm split).congr rfl rfl rfl rfl (mem_of_mem_replaced trivial)
  | @stored number result others split estimator =>
      have fits : Fetch.Fits _ (.storing number result) :=
        (gathering.perm split).fits (.storing number result) (.head _)
      refine (gathering.perm split).mono (Nat.le_refl _) (by simp) (by simp)
        (mem_of_mem_replaced trivial) ?_
      intro entry member
      rw [Session.stored, List.filterMap_append, List.mem_append] at member
      rcases member with earlier | new
      · exact .inl earlier
      · cases result with
        | error error => simp at new
        | ok envelopes =>
            obtain rfl : entry = (number, envelopes) := by simpa using new
            exact .inr fits
  | @acked acks messages gone new others happened split gone_acking new_acking present minor =>
      have started := filterMap_append_of_isMinor started?_of_isMinor before.records minor
      have answers := filterMap_append_of_isMinor answer?_of_isMinor before.records minor
      have stored := filterMap_append_of_isMinor stored?_of_isMinor before.records minor
      have fetches :=
        filterMap_append_of_isAcking fetch?_of_isAcking gone_acking new_acking others
      refine (gathering.perm split).congr rfl started answers stored ?_
      intro fetch member
      exact .inl (by rwa [Session.fetches, ← fetches])
  | foundEmpty | cancelled | elapsed | dropped =>
      exact gathering.congr rfl rfl rfl rfl (fun _ => .inl)
  | arrived fresh =>
      cases fresh <;> exact gathering.congr rfl rfl rfl rfl (fun _ => .inl)
  | @left caller others split leaves =>
      cases caller with
      | receiver | shutdown =>
          exact (gathering.perm split).congr rfl rfl rfl rfl (fun _ => .inl)
      | _ => contradiction
  | reordered same => exact gathering.perm same

end Gathering

/-! ## Deliveries -/

section Deliveries

variable [Scalar Number] {setup : Setup Number} {session : Session Number}

theorem conserved_of_reached (reached : Reached setup session) : Conserved setup session :=
  reached.preserve .change (.create setup)

/-- Whether messages are acknowledged is fixed when the subscription is built. -/
theorem acks_isSome_sessionOf (setup : Setup Number) (moves : List Move) :
    (sessionOf setup moves).subscription.acks.isSome = !setup.atMostOnce := by
  rw [(conserved_of_reached (reached_sessionOf setup moves)).acks]
  cases atMostOnce : setup.atMostOnce <;>
    simp [Setup.subscription, Subscription.create, atMostOnce]

theorem gathering_of_reached (reached : Reached setup session) : Gathering session :=
  reached.induction (.create setup) fun earlier change =>
    .change change (tracked_of_reached earlier)

/-- The numbers of the background receives that ended well are among those of all that ended. -/
theorem sublist_fetched (records : List Record) :
    ((records.filterMap Record.stored?).map Prod.fst).Sublist
      (records.filterMap Record.fetched?) := by
  induction records with
  | nil => exact .slnil
  | cons record rest hypothesis =>
      cases record with
      | fetched number result =>
          cases result with
          | ok envelopes => exact hypothesis.cons_cons number
          | error error => exact hypothesis.cons number
      | _ => exact hypothesis

/-- A receiver that is answered with an error leaves the queue as it is. -/
theorem queue_step_of_error
    {subscription : Subscription Number}
    {moment : Moment}
    {cancelled : Bool}
    {receiver : Receiver}
    {error : Error}
    (failed : (receiver.step moment cancelled subscription).next = .done (.error error)) :
    (receiver.step moment cancelled subscription).state.queue = subscription.queue := by
  cases receiver with
  | awaiting fetch => rfl
  | asking =>
      have move : (subscription.receive cancelled moment.now).move = .failed error := by
        simp only [Receiver.step, afterReceive] at failed
        split at failed <;> simp_all
      exact queue_receive_of_failed move

/-- As long as no receiver gets a message, nothing leaves the queue. -/
theorem Conserved.prefix_queue
    {later : Session Number}
    (conserved : Conserved setup session)
    (lasting : Conserved setup later)
    (records : session.records <+: later.records)
    (none : later.delivered = session.delivered) :
    session.subscription.queue <+: later.subscription.queue := by
  have popped : session.popped = later.popped := by
    have growing : session.popped <+: later.popped := records.filterMap _
    refine growing.eq_of_length ?_
    have lengths := congrArg List.length none
    rw [lasting.delivered, conserved.delivered, List.length_map, List.length_map] at lengths
    exact lengths.symm
  have stored : session.stored.flatMap Prod.snd <+: later.stored.flatMap Prod.snd := by
    obtain ⟨new, whole⟩ := records.filterMap Record.stored?
    rw [Session.stored, Session.stored, ← whole, List.flatMap_append]
    exact List.prefix_append ..
  rw [← conserved.queue, ← lasting.queue, popped] at stored
  exact (List.prefix_append_right_inj _).mp stored

end Deliveries

/-- What left the queue, followed by the queue, is what the background receives that ended well have
stored, in the order in which they ended; receivers were answered with what left it, in this order.
An error takes nothing off the queue, and at most one background receive is in flight. -/
theorem popped_append_queue_eq_stored
    [Scalar Number]
    (setup : Setup Number)
    (moves : List Move) :
    let session := sessionOf setup moves
    session.popped ++ session.subscription.queue = session.stored.flatMap Prod.snd ∧
    session.delivered = session.popped.map setup.subscription.wrap ∧
    (session.stored.map Prod.fst).Nodup ∧
    (∀ result ∈ session.stored, ∃ sizes, (result.1, sizes) ∈ session.started ∧
      ∃ values : List (List Envelope), values.length = sizes.length ∧
        values.flatten = result.2 ∧
        ∀ place envelopes,
          values[place]? = some envelopes ↔ (result.1, place, envelopes) ∈ session.answers) ∧
    (∀ (receiver : Receiver) (moment : Moment) (cancelled : Bool) (error : Error),
      (receiver.step moment cancelled session.subscription).next = .done (.error error) →
        (receiver.step moment cancelled session.subscription).state.queue =
          session.subscription.queue) ∧
    (∀ later : List Move, (session.run later).delivered = session.delivered →
      session.subscription.queue <+: (session.run later).subscription.queue) ∧
    session.inFlight.length ≤ 1 := by
  intro session
  have reached : Reached setup session := reached_sessionOf setup moves
  have conserved := conserved_of_reached reached
  have tracked := tracked_of_reached reached
  refine ⟨conserved.queue, conserved.delivered, ?once, fun result stored => ?complete,
    fun _ _ _ _ => queue_step_of_error, fun later none => ?kept, ?alone⟩
  case once => exact tracked.once.sublist (sublist_fetched session.records)
  case complete =>
    obtain ⟨values, answered, whole⟩ := (gathering_of_reached reached).stored result stored
    obtain ⟨sizes, started, length⟩ := answered.started
    refine ⟨sizes, started, values, by simpa using length, whole, fun place envelopes => ?_⟩
    rw [← answered.answers, List.getElem?_map]
    simp
  case kept =>
    have changes : Changes session (session.run later) := changes_run session later
    exact conserved.prefix_queue (conserved_of_reached (reached.trans changes))
      changes.prefix_records none
  case alone =>
    have noted := tracked.receiving.length_eq
    have bound : session.subscription.receiving.toList.length ≤ 1 := Option.length_toList_le
    rw [List.length_append] at noted
    omega

end Subscription
end PubSub
