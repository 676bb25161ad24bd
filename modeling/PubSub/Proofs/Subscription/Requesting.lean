import Mathlib.Data.List.Forall2
import PubSub.Proofs.Subscription.Delivery
import PubSub.Proofs.Subscription.Recording

/-!
# What driver calls ask for

A background receive makes the driver calls that it was started for. Every attempt of a call asks
for the number of messages that its size is, and the driver answers what it was asked and nothing
else. So if the driver never returns more messages than it was asked for, then what a background
receive stores fits the sizes of its calls.
-/

namespace PubSub
namespace Subscription

variable {Number : Type}

/-- A driver call for messages: the number of its background receive, its place and the largest
number of messages that it asks for. -/
@[simp] def Record.request? : Record → Option (Nat × Nat × Nat)
  | .asked (.receiveBatch fetch place requested) => some (fetch, place, requested)
  | _ => none

namespace Session

variable (session : Session Number)

/-- The driver calls for messages, oldest first. -/
def requests : List (Nat × Nat × Nat) := session.records.filterMap Record.request?

/-- The driver never returned more messages than it was asked for. -/
def IsModest : Prop :=
  ∀ request ∈ session.requests, ∀ answer ∈ session.answers,
    answer.1 = request.1 → answer.2.1 = request.2.1 → answer.2.2.length ≤ request.2.2

instance : Decidable session.IsModest :=
  inferInstanceAs (Decidable (∀ request ∈ session.requests, ∀ answer ∈ session.answers,
    answer.1 = request.1 → answer.2.1 = request.2.1 → answer.2.2.length ≤ request.2.2))

end Session

section Views

variable {session : Session Number}

/-- What a view shows is there if the view shows it of one record only. -/
theorem mem_filterMap_iff {View : Type}
    {view : Record → Option View}
    {shown : View}
    {record : Record}
    (only : ∀ other, view other = some shown ↔ other = record)
    (records : List Record) : shown ∈ records.filterMap view ↔ record ∈ records := by
  simp [List.mem_filterMap, only]

theorem mem_requests_iff {number place requested : Nat} :
    (number, place, requested) ∈ session.requests ↔
      .asked (.receiveBatch number place requested) ∈ session.records :=
  mem_filterMap_iff (fun other => by unfold Record.request?; split <;> grind) session.records

theorem mem_started_iff {number : Nat} {sizes : List Nat} :
    (number, sizes) ∈ session.started ↔ .asked (.startFetch number sizes) ∈ session.records :=
  mem_filterMap_iff (fun other => by unfold Record.started?; split <;> grind) session.records

theorem mem_answers_iff {number place : Nat} {envelopes : List Envelope} :
    (number, place, envelopes) ∈ session.answers ↔
      .answered number place (.returned (.ok envelopes)) ∈ session.records :=
  mem_filterMap_iff (fun other => by unfold Record.answer?; split <;> grind) session.records

end Views

/-! ## Background receives at their driver calls -/

/-- A background receive asks for what it was started for. -/
def Placed
    (records : List Record)
    (number : Nat)
    (calls : Retry.Group Nat (List Envelope)) : Prop :=
  ∃ sizes, .asked (.startFetch number sizes) ∈ records ∧
    calls.Asks sizes fun place requested => .asked (.receiveBatch number place requested) ∈ records

/-- A background receive that stays at its driver calls. -/
theorem group?_of_calling_step
    {moment : Moment}
    {answer : Answer (Except Fault (List Envelope))}
    {subscription : Subscription Number}
    {number other : Nat}
    {calls later : Retry.Group Nat (List Envelope)}
    {turn : Turn (Subscription Number) Fetch Unit Effect}
    (taken : (Fetch.calling number calls).step moment answer subscription = turn)
    (goesOn : .calling other later ∈ turn.next.tasks) :
    let step := calls.step (fun _ => subscription.plan receiveOperation)
      subscription.backgroundEnded moment answer
    other = number ∧ step.group? = some later ∧
      ∀ place requested, step = .call place requested later →
        .receiveBatch number place requested ∈ turn.effects := by
  subst taken
  revert goesOn
  unfold Fetch.step
  dsimp only
  generalize calls.step _ _ _ _ = step
  intro goesOn
  cases step with
  | call place requested after =>
      cases List.mem_singleton.mp goesOn
      refine ⟨rfl, rfl, ?_⟩
      rintro _ _ ⟨⟩
      exact List.mem_cons_self
  | wait | «continue» | announce =>
      cases List.mem_singleton.mp goesOn
      exact ⟨rfl, rfl, by rintro _ _ ⟨⟩⟩
  | finish result =>
      cases result <;> cases List.mem_singleton.mp goesOn
  | crash => contradiction

namespace Placed

variable {records longer : List Record} {number : Nat}
  {calls later : Retry.Group Nat (List Envelope)}

theorem mono (placed : Placed records number calls) (known : records ⊆ longer) :
    Placed longer number calls := by
  obtain ⟨sizes, started, asks⟩ := placed
  exact ⟨sizes, known started, asks.mono fun _ _ asked => known asked⟩

/-- A turn of a background receive at its driver calls. -/
theorem turn
    (placed : Placed records number calls)
    {moment : Moment}
    {answer : Answer (Except Fault (List Envelope))}
    {subscription : Subscription Number}
    {turn : Turn (Subscription Number) Fetch Unit Effect}
    (taken : (Fetch.calling number calls).step moment answer subscription = turn)
    {other : Nat}
    (goesOn : .calling other later ∈ turn.next.tasks)
    (known : records ⊆ longer)
    (asked : ∀ effect ∈ turn.effects, .asked effect ∈ longer) : Placed longer other later := by
  obtain ⟨rfl, leads, calling⟩ := group?_of_calling_step taken goesOn
  obtain ⟨sizes, started, asks⟩ := placed.mono known
  exact ⟨sizes, started, asks.moved (calls.moved_step ..) leads fun place requested same =>
    asked _ (calling place requested same)⟩

end Placed

/-! ## All background receives -/

/-- Driver calls for messages ask for what background receives were started for, and the driver
answers what it was asked. -/
structure Requesting (session : Session Number) : Prop where
  calling : ∀ number calls, .fetch (.calling number calls) ∈ session.activities →
    Placed session.records number calls
  asked : ∀ number place requested,
    .asked (.receiveBatch number place requested) ∈ session.records →
      ∃ sizes, .asked (.startFetch number sizes) ∈ session.records ∧
        sizes[place]? = some requested
  answered : ∀ number place answer, .answered number place answer ∈ session.records →
    ∃ requested, .asked (.receiveBatch number place requested) ∈ session.records

namespace Requesting

variable {session : Session Number}

/-- A background receive at its driver calls was just started for them. -/
theorem placed_of_startedIn
    {number : Nat}
    {calls : Retry.Group Nat (List Envelope)}
    (new : StartedIn session (.fetch (.calling number calls))) :
    Placed session.records number calls := by
  obtain ⟨effects, started, asked⟩ := new
  obtain ⟨effect, present, same⟩ := List.mem_filterMap.mp started
  split at same
  next other sizes =>
    cases same
    exact ⟨sizes, asked _ present, .ofRequests sizes _⟩
  all_goals cases same

section Steps

variable [Scalar Number]

theorem step (requesting : Requesting session) (move : Move) :
    Requesting (session.step move) := by
  obtain ⟨happened, records, known⟩ := exists_recorded_step session move
  have lasting : session.records ⊆ (session.step move).records := by
    rw [records]
    exact List.subset_append_left ..
  refine ⟨fun number calls member => ?calling, fun number place requested member => ?asked,
    fun number place answer member => ?answered⟩
  case calling =>
    cases arises_of_mem_step member with
    | stayed earlier => exact (requesting.calling number calls earlier).mono lasting
    | called fresh => cases fresh
    | started new => exact placed_of_startedIn new
    | @wentOn place finding actor moves found goesOn =>
        subst moves
        cases goesOn with
        | @fetch fetch _ later =>
            cases fetch with
            | storing other result => cases List.mem_singleton.mp later
            | waking other => contradiction
            | calling other before =>
                refine (requesting.calling other before (List.mem_of_getElem? found)).turn rfl later
                  lasting fun effect asks => ?_
                rw [Session.step, found]
                exact List.mem_append_right _
                  (List.mem_append_right _ (List.mem_map_of_mem asks))
  case asked =>
    rw [records, List.mem_append] at member
    rcases member with earlier | new
    · obtain ⟨sizes, started, present⟩ := requesting.asked number place requested earlier
      exact ⟨sizes, lasting started, present⟩
    · cases known _ new with
      | turned moves found made =>
          cases made with
          | requested live running =>
              obtain ⟨sizes, started, asks⟩ := requesting.calling _ _ (List.mem_of_getElem? found)
              exact ⟨sizes, lasting started, asks.running _ _ _ running⟩
  case answered =>
    rw [records, List.mem_append] at member
    rcases member with earlier | new
    · obtain ⟨requested, asked⟩ := requesting.answered number place answer earlier
      exact ⟨requested, lasting asked⟩
    · cases known _ new with
      | turned moves found made =>
          cases made with
          | answered awaited =>
              obtain ⟨rfl, requested, failures, running⟩ := Retry.Group.awaited?_eq_some awaited
              obtain ⟨sizes, started, asks⟩ := requesting.calling _ _ (List.mem_of_getElem? found)
              exact ⟨requested, lasting (asks.called _ _ _ running)⟩

end Steps

/-- All that is asked for a background receive is what it was started for. -/
theorem getElem?_of_requested
    (requesting : Requesting session)
    (once : (session.started.map Prod.fst).Nodup)
    {number place requested : Nat}
    {sizes : List Nat}
    (started : (number, sizes) ∈ session.started)
    (asked : (number, place, requested) ∈ session.requests) : sizes[place]? = some requested := by
  obtain ⟨other, begun, present⟩ := requesting.asked _ _ _ (mem_requests_iff.mp asked)
  have same := List.inj_on_of_nodup_map once (mem_started_iff.mpr begun) started rfl
  cases same
  exact present

/-- A driver call that has returned messages asked for what its background receive was started
for. -/
theorem requested_of_answered
    (requesting : Requesting session)
    (once : (session.started.map Prod.fst).Nodup)
    {number place : Nat}
    {envelopes : List Envelope}
    {sizes : List Nat}
    (started : (number, sizes) ∈ session.started)
    (returned : (number, place, envelopes) ∈ session.answers) :
    ∃ requested, sizes[place]? = some requested ∧
      (number, place, requested) ∈ session.requests := by
  obtain ⟨requested, asked⟩ := requesting.answered _ _ _ (mem_answers_iff.mp returned)
  have request := mem_requests_iff.mpr asked
  exact ⟨requested, requesting.getElem?_of_requested once started request, request⟩

/-- If the driver never returns more messages than it was asked for, then what its calls have
returned to a background receive fits their sizes. -/
theorem forall₂_of_complete
    (requesting : Requesting session)
    (modest : session.IsModest)
    (once : (session.started.map Prod.fst).Nodup)
    {number : Nat}
    {values : List (List Envelope)}
    (answered : Answered session number (values.map some)) :
    ∃ sizes, (number, sizes) ∈ session.started ∧
      List.Forall₂ (fun value size => value.length ≤ size) values sizes := by
  obtain ⟨sizes, started, length⟩ := answered.started
  rw [List.length_map] at length
  refine ⟨sizes, started, List.forall₂_iff_get.mpr ⟨length, fun place inside bound => ?_⟩⟩
  have returned : (number, place, values[place]) ∈ session.answers := by
    rw [← answered.answers, List.getElem?_map, List.getElem?_eq_getElem inside]
    rfl
  obtain ⟨requested, present, asked⟩ := requesting.requested_of_answered once started returned
  obtain rfl : sizes[place] = requested :=
    Option.some.inj ((List.getElem?_eq_getElem bound).symm.trans present)
  exact modest _ asked _ returned rfl rfl

end Requesting

theorem requesting_sessionOf [Scalar Number] (setup : Setup Number) (moves : List Move) :
    Requesting (sessionOf setup moves) :=
  sessionOf_induction
    ⟨by simp [Setup.session], by simp [Setup.session], by simp [Setup.session]⟩
    (fun _ move requesting => requesting.step move) moves

end Subscription
end PubSub
