import PubSub.Proofs.Pipeline.Linking

/-!
# From a topic to receivers

A message that was sent by a topic has reached a receiver, waits in the queue of the subscription,
is held by a background receive, or was not yet handed out by the broker: it is in one of these
places, once, as it was sent. Wherever it is, the number that the broker has given it tells which
call has sent it.
-/

namespace PubSub
namespace Pipeline

/-- What a message says, whatever carries it: its body and its attributes. -/
abbrev Content := Bytes × List (Bytes × Bytes)

/-- What an envelope says to applications, whose attributes are byte strings. -/
def contentOf (envelope : Envelope) : Content :=
  (envelope.body,
    envelope.metadata.map fun entry => (Text.encode entry.1, Text.encode entry.2))

/-- A message on its way: the token of the driver, and what it says. -/
structure Parcel where
  token : Option AckId
  content : Content
  deriving DecidableEq

namespace Parcel

def ofEnvelope (envelope : Envelope) : Parcel :=
  { token := envelope.ackId, content := contentOf envelope }

/-- A message that a receiver got, which has to be completed under its token. -/
def ofMessage (message : Message) : Parcel where
  token :=
    match message.state with
    | .pending (.request id) => some id
    | _ => none
  content := (message.body, message.metadata)

/-- A message that the feed holds under a number. -/
def ofHeld (held : Nat × HeldMessage) : Parcel :=
  { ofEnvelope held.2.envelope with token := some (.broker held.1) }

/-- A message that was sent, with the number that the broker has given it. -/
def ofEntry (entry : Entry Envelope × Nat) : Parcel :=
  { ofEnvelope entry.1.item with token := some (.broker entry.2) }

end Parcel

variable {Number : Type}

namespace Session

variable (session : Session Number)

/-- The messages on their way: those that receivers got, those in the queue, those that background
receives hold, and those that the feed has never handed out. -/
def parcels : List Parcel :=
  session.subscription.delivered.map Parcel.ofMessage
    ++ session.subscription.subscription.queue.map Parcel.ofEnvelope
    ++ session.subscription.held.map Parcel.ofEnvelope
    ++ (session.broker.undelivered 0).map Parcel.ofHeld

/-- The call that has sent a message: the broker numbers messages as they are sent. -/
def origin? (parcel : Parcel) : Option Topic.Send :=
  match parcel.token with
  | some (.broker number) =>
      session.topic.dispatched[number]?.bind fun entry => session.topic.sender? entry.id
  | _ => none

/-- How often the message of the call with this number is on its way. -/
def copies (number : Nat) : Nat :=
  session.parcels.countP fun parcel => (session.origin? parcel).any (·.number == number)

/-- A message that was sent is traced back to the call whose message was accepted. -/
theorem origin?_ofEntry
    {entry : Entry Envelope × Nat}
    (sent : entry ∈ session.topic.dispatched.zipIdx) :
    session.origin? (.ofEntry entry) = session.topic.sender? entry.1.id := by
  have here : session.topic.dispatched[entry.2]? = some entry.1 :=
    List.mem_zipIdx_iff_getElem?.mp sent
  rw [origin?, Parcel.ofEntry]
  dsimp only
  rw [here, Option.bind_some]

end Session

/-- A receiver gets a message as it is, under its token. -/
theorem ofMessage_wrap
    {subscription : Subscription Number}
    (acks : subscription.acks.isSome = true)
    {envelope : Envelope}
    (token : envelope.ackId.isSome = true) :
    Parcel.ofMessage (subscription.wrap envelope) = .ofEnvelope envelope := by
  obtain ⟨id, some⟩ := Option.isSome_iff_exists.mp token
  rw [Subscription.wrap, if_pos acks, Subscription.ackIdOf, some, Parcel.ofEnvelope, some]
  rfl

variable [Scalar Number] {setup : Setup Number} {moves : List Move}

namespace Linked

variable {session : Session Number}

/-- What receivers got is what left the queue. -/
theorem map_ofMessage_delivered (linked : Linked setup session) :
    session.subscription.delivered.map Parcel.ofMessage =
      session.subscription.popped.map Parcel.ofEnvelope := by
  obtain ⟨moves, calm, subscription⟩ := linked.subscription
  have conserved := Subscription.conserved_of_reached
    (Subscription.reached_sessionOf setup.subscription moves)
  have acks : setup.subscription.subscription.acks.isSome = true := by
    rw [← conserved.acks]
    exact Subscription.acks_isSome_of_atLeastOnce rfl moves
  rw [← subscription] at conserved
  rw [conserved.delivered, List.map_map]
  refine List.map_congr_left fun envelope popped => ofMessage_wrap acks ?_
  exact linked.calm.tokens envelope (linked.mem_brought_of_popped popped)

open scoped List in
/-- The messages on their way are the messages that were sent, under their numbers. -/
theorem parcels_perm (linked : Linked setup session) :
    session.parcels.Perm (session.topic.dispatched.zipIdx.map Parcel.ofEntry) := by
  obtain ⟨feed, flowing⟩ := linked.flowing
  rw [Session.parcels, linked.map_ofMessage_delivered, ← List.map_append, ← List.map_append,
    flowing.undelivered_eq]
  calc (session.subscription.popped ++ session.subscription.subscription.queue
          ++ session.subscription.held).map Parcel.ofEnvelope
        ++ (Feed.waiting feed.messages).map Parcel.ofHeld
    _ ~ session.subscription.brought.map Parcel.ofEnvelope
        ++ (Feed.waiting feed.messages).map Parcel.ofHeld :=
        (linked.brought_perm.symm.map _).append_right _
    _ = (session.broker.handedOut 0 ++
          (Feed.waiting feed.messages).map (Feed.handedOut (some setup.ackDeadline))).map
            Parcel.ofEnvelope := by
        rw [linked.received, List.map_append, List.map_map]
        rfl
    _ = (session.topic.dispatched.map Entry.item).zipIdx.map
          (Parcel.ofEnvelope ∘ Broker.issue) := by
        rw [flowing.flow, Broker.Session.issued, linked.sent, List.map_map]
    _ = session.topic.dispatched.zipIdx.map Parcel.ofEntry := by
        rw [List.zipIdx_map, List.map_map]
        rfl

/-- The message of a call is on its way as often as it was sent. -/
theorem copies_eq (linked : Linked setup session) (number : Nat) :
    session.copies number = session.topic.timesSent number := by
  rw [Session.copies, linked.parcels_perm.countP_eq, List.countP_map, Topic.Session.timesSent]
  conv => rhs; rw [← List.zipIdx_map_fst 0 session.topic.dispatched, List.countP_map]
  refine List.countP_congr fun entry sent => ?_
  rw [Function.comp_apply, session.origin?_ofEntry sent, Function.comp_apply]

/-- What the messages on their way say is what was sent. -/
theorem map_content_parcels_perm (linked : Linked setup session) :
    (session.parcels.map Parcel.content).Perm
      (session.topic.dispatched.map fun entry => contentOf entry.item) := by
  have same := linked.parcels_perm.map Parcel.content
  rw [List.map_map] at same
  have forget : Parcel.content ∘ Parcel.ofEntry =
      (fun entry : Entry Envelope => contentOf entry.item) ∘ Prod.fst := rfl
  rwa [forget, ← List.map_map, List.zipIdx_map_fst] at same

/-- A message on its way is the message of the call that it is traced back to. -/
theorem exists_origin
    (linked : Linked setup session)
    {parcel : Parcel}
    (present : parcel ∈ session.parcels) :
    ∃ send, session.origin? parcel = some send ∧
      parcel.content = (send.message.body, send.message.metadata) := by
  obtain ⟨moves, topic⟩ := linked.topic
  obtain ⟨entry, sent, rfl⟩ := List.mem_map.mp (linked.parcels_perm.mem_iff.mp present)
  have dispatched : entry.1 ∈ session.topic.dispatched := by
    rw [← List.zipIdx_map_fst 0 session.topic.dispatched]
    exact List.mem_map_of_mem sent
  rw [topic] at dispatched
  obtain ⟨send, entered, checked⟩ :=
    Topic.exists_entered_of_mem_dispatched setup.topic moves dispatched
  obtain ⟨body, metadata⟩ := Message.toEnvelope_eq_ok checked
  refine ⟨send, ?_, ?_⟩
  · rw [session.origin?_ofEntry sent, topic]
    exact (Topic.sender?_eq_some_iff setup.topic moves).mpr entered
  · rw [← body, ← metadata]
    rfl

end Linked

instance (setup : Setup Number) (moves : List Move) : Decidable (InTime setup moves) :=
  inferInstanceAs
    (Decidable (∀ earlier ∈ moves.inits, (sessionOf setup earlier).broker.isInTime 0 = true))

/-- As long as nobody refuses a message or shuts anything down and no deadline passes, the messages
on their way are those that were sent, as they were sent: the message of a call is there once if the
call has succeeded, never if it was found invalid, and at most once in any case. -/
theorem round_trip (setup : Setup Number) (moves : List Move) (inTime : InTime setup moves) :
    let session := sessionOf setup moves
    (session.parcels.map Parcel.content).Perm
        (session.topic.dispatched.map fun entry => contentOf entry.item) ∧
      (∀ parcel ∈ session.parcels, ∃ send, session.origin? parcel = some send ∧
        parcel.content = (send.message.body, send.message.metadata)) ∧
      (∀ send, (send, .ok ()) ∈ session.topic.answers → session.copies send.number = 1) ∧
      (∀ send message, (send, .error (.invalidArgument message)) ∈ session.topic.answers →
        session.copies send.number = 0) ∧
      ∀ number, session.copies number ≤ 1 := by
  intro session
  have linked : Linked setup session := linked_sessionOf inTime
  obtain ⟨history, topic⟩ := linked.topic
  refine ⟨linked.map_content_parcels_perm, fun parcel => linked.exists_origin, ?ok, ?invalid,
    fun number => ?single⟩
  case ok =>
    intro send answered
    rw [linked.copies_eq, topic]
    exact Topic.timesSent_of_ok setup.topic history (topic ▸ answered)
  case invalid =>
    intro send message answered
    rw [linked.copies_eq, topic]
    exact Topic.timesSent_of_invalidArgument setup.topic history (topic ▸ answered)
  case single =>
    rw [linked.copies_eq, topic]
    exact Topic.timesSent_le_one setup.topic history number

/-- The task at the first place takes turns. -/
def turns (turn : Nat → Bool → (Delays → Duration) → Move) (count : Nat) : List Move :=
  List.replicate count (turn 0 false Delays.shortest)

/-- Two messages are sent and received, one of them so far; a third one is invalid. -/
def exchange : List Move :=
  [.send 0 { body := [1], metadata := [([107], [118])] }] ++ turns .topicTurn 9 ++
    [.send 0 { body := [2], metadata := [([255], [])] }] ++ turns .topicTurn 2 ++
    [.send 0 { body := [3] }] ++ turns .topicTurn 9 ++
    [.receive 0] ++ turns .subscriptionTurn 10

/-- One of the messages that were sent has reached a receiver, the other one is still with the
broker. -/
theorem round_trip_of_exchange :
    let session := sessionOf .exact exchange
    InTime .exact exchange ∧
      session.subscription.delivered.map Message.body = [[1]] ∧
      (session.broker.undelivered 0).map (·.2.envelope.body) = [[3]] ∧
      session.copies 0 = 1 ∧ session.copies 1 = 0 ∧ session.copies 2 = 1 ∧
      (session.parcels.map Parcel.content).Perm
        [([1], [([107], [118])]), ([3], [])] := by
  have inTime : InTime .exact exchange := by decide +kernel
  have sent : (sessionOf .exact exchange).topic.dispatched.map (fun entry =>
      contentOf entry.item) = [([1], [([107], [118])]), ([3], [])] := by decide +kernel
  obtain ⟨same, -, once, never, -⟩ := round_trip .exact exchange inTime
  refine ⟨inTime, by decide +kernel, by decide +kernel, ?first, ?second, ?third, sent ▸ same⟩
  case first =>
    exact once ⟨0, 0, { body := [1], metadata := [([107], [118])] }⟩ (by decide +kernel)
  case second =>
    let invalid : Topic.Send := ⟨1, 0, { body := [2], metadata := [([255], [])] }⟩
    have answered : (invalid, Except.error (Message.invalidKey [255])) ∈
        (sessionOf .exact exchange).topic.answers := by decide +kernel
    exact never invalid _ answered
  case third => exact once ⟨2, 0, { body := [3] }⟩ (by decide +kernel)

end Pipeline
end PubSub
