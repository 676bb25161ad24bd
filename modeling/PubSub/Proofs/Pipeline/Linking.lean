import Mathlib.Data.List.Infix
import PubSub.Proofs.Pipeline.Session
import PubSub.Proofs.Subscription.Calm
import PubSub.Proofs.Topic.Tracing

/-!
# The broker links a topic and a subscription

What the broker was sent is what the topic shows as sent, and what the feed has handed out is what
was returned to the subscription. As long as no deadline passes, each move keeps it so: the turn in
which a task hears of its driver call is the turn in which the broker answers the call.
-/

namespace PubSub
namespace Pipeline

variable {Number : Type}

/-! ## The broker in the meantime -/

/-- The broker has neither been sent nor handed out anything. -/
structure Idle (span : Duration) (before after : Broker.Session) : Prop where
  flowing : ∃ feed, Broker.Flowing 0 span after feed
  sent : after.sent = before.sent
  handedOut : after.handedOut 0 = before.handedOut 0

namespace Idle

variable {span : Duration} {before after : Broker.Session} {feed : Feed}

theorem refl (flowing : Broker.Flowing 0 span before feed) : Idle span before before :=
  ⟨⟨feed, flowing⟩, rfl, rfl⟩

theorem of_records
    (flowing : Broker.Flowing 0 span after feed)
    (records : after.records = before.records) : Idle span before after :=
  ⟨⟨feed, flowing⟩, by rw [Broker.Session.sent, records, ← Broker.Session.sent],
    by rw [Broker.Session.handedOut, records, ← Broker.Session.handedOut]⟩

end Idle

/-- What the background receive at a place finds out in a turn, with the broker after that. -/
inductive Fetching (span : Duration) (session : Session Number) (place : Nat) :
    Answer (Except Fault (List Envelope)) × Broker.Session → Prop
  | running {after : Broker.Session} (idle : Idle span session.broker after) :
      Fetching span session place (.running, after)
  | returned {after : Broker.Session} {feed : Feed} {number member : Nat}
      {calls : Retry.Group Nat (List Envelope)} {envelopes : List Envelope}
      (found : session.subscription.activities[place]? = some (.fetch (.calling number calls)))
      (awaited : calls.awaited? = some member)
      (flowing : Broker.Flowing 0 span after feed)
      (sent : after.sent = session.broker.sent)
      (handedOut : after.handedOut 0 = session.broker.handedOut 0 ++ envelopes) :
      Fetching span session place (.returned (.ok envelopes), after)

/-- As long as no deadline has passed, a background receive finds out what the feed hands out. -/
theorem fetching_of_isInTime
    {span : Duration}
    {session : Session Number}
    {feed : Feed}
    (flowing : Broker.Flowing 0 span session.broker feed)
    (inTime : session.broker.isInTime 0 = true)
    (place : Nat)
    (contextFirst : Bool) : Fetching span session place (session.receiving place contextFirst) := by
  rw [Broker.Session.isInTime, flowing.present] at inTime
  unfold Session.receiving
  split
  next number calls found =>
    cases awaited : calls.awaited? with
    | none => exact .running (.refl flowing)
    | some member =>
        dsimp only [Option.bind_eq_bind, Option.bind_some]
        split
        next => exact .running (.refl flowing)
        next index present =>
          rcases flowing.turn inTime index contextFirst with
            ⟨records, later⟩ | ⟨envelopes, feed, records, later⟩
          · simp only [records, List.drop_length]
            exact .running (.of_records later records)
          · simp only [records, List.drop_left]
            refine .returned found awaited later ?_ ?_
            · simpa [Broker.Record.envelopes] using Broker.Session.sent_append records
            · rw [Broker.Session.handedOut_append records]
              simp [Broker.Record.handedOut]
  next => exact .running (.refl flowing)

/-! ## Links -/

variable [Scalar Number]

/-- The broker was sent what the topic shows as sent, and has handed out what was returned to the
subscription. -/
structure Linked (setup : Setup Number) (session : Session Number) : Prop where
  topic : ∃ moves, session.topic = Topic.sessionOf setup.topic moves
  subscription : ∃ moves, (∀ move ∈ moves, Subscription.Move.IsCalm move) ∧
    session.subscription = Subscription.sessionOf setup.subscription moves
  flowing : ∃ feed, Broker.Flowing 0 setup.ackDeadline session.broker feed
  sent : session.broker.sent = session.topic.dispatched.map Entry.item
  received : session.subscription.brought = session.broker.handedOut 0

namespace Linked

variable {setup : Setup Number} {session : Session Number}

theorem create (setup : Setup Number) : Linked setup setup.session where
  topic := ⟨[], rfl⟩
  subscription := ⟨[], by simp, rfl⟩
  flowing := ⟨_, .attached setup.ackDeadline⟩
  sent := rfl
  received := rfl

/-- A move of the topic leads to a session of the topic. -/
theorem topic_step (linked : Linked setup session) (move : Topic.Move) :
    ∃ moves, session.topic.step move = Topic.sessionOf setup.topic moves := by
  obtain ⟨moves, topic⟩ := linked.topic
  exact ⟨moves ++ [move], by rw [Topic.sessionOf_append_singleton, topic]⟩

/-- A calm move of the subscription leads to a session of the subscription. -/
theorem subscription_step
    (linked : Linked setup session)
    (move : Subscription.Move)
    (calm : move.IsCalm) :
    ∃ moves, (∀ move ∈ moves, Subscription.Move.IsCalm move) ∧
      session.subscription.step move = Subscription.sessionOf setup.subscription moves := by
  obtain ⟨moves, allowed, subscription⟩ := linked.subscription
  refine ⟨moves ++ [move], ?_, ?_⟩
  · rw [List.forall_mem_append, List.forall_mem_singleton]
    exact ⟨allowed, calm⟩
  · rw [Subscription.sessionOf_append_singleton, subscription]

/-- Nothing goes wrong with the subscription. -/
theorem calm (linked : Linked setup session) : Subscription.Calm session.subscription := by
  obtain ⟨moves, allowed, subscription⟩ := linked.subscription
  rw [subscription]
  exact Subscription.calm_sessionOf allowed

/-- What was returned to the subscription left the queue, is queued, or is held. -/
theorem brought_perm (linked : Linked setup session) :
    session.subscription.brought.Perm
      (session.subscription.popped ++ session.subscription.subscription.queue
        ++ session.subscription.held) := by
  obtain ⟨moves, allowed, subscription⟩ := linked.subscription
  rw [subscription]
  exact Subscription.brought_perm allowed

theorem mem_brought_of_popped
    (linked : Linked setup session)
    {envelope : Envelope}
    (popped : envelope ∈ session.subscription.popped) :
    envelope ∈ session.subscription.brought :=
  linked.brought_perm.mem_iff.mpr (List.mem_append_left _ (List.mem_append_left _ popped))

/-- The topic makes a move that shows no batch as sent. -/
theorem of_topic
    (linked : Linked setup session)
    (move : Topic.Move)
    (running : ∀ place finding, move = .turn place finding → finding.settled = .running) :
    Linked setup { session with topic := session.topic.step move } where
  topic := linked.topic_step move
  subscription := linked.subscription
  flowing := linked.flowing
  sent := by
    rw [Topic.Session.dispatched, Topic.delivered_step_of_running running]
    exact linked.sent
  received := linked.received

/-- The subscription makes a move by which nothing is returned. -/
theorem of_subscription
    (linked : Linked setup session)
    (move : Subscription.Move)
    (calm : move.IsCalm)
    (running : ∀ place finding, move = .turn place finding → finding.fetched = .running) :
    Linked setup { session with subscription := session.subscription.step move } where
  topic := linked.topic
  subscription := linked.subscription_step move calm
  flowing := linked.flowing
  sent := linked.sent
  received := by
    rw [Subscription.brought_step_of_running running]
    exact linked.received

/-- The broker goes on as it was. -/
theorem of_idle
    (linked : Linked setup session)
    {after : Broker.Session}
    (idle : Idle setup.ackDeadline session.broker after) :
    Linked setup { session with broker := after } where
  topic := linked.topic
  subscription := linked.subscription
  flowing := idle.flowing
  sent := idle.sent.trans linked.sent
  received := linked.received.trans idle.handedOut.symm

/-! ## Turns of the topic -/

/-- A batch that the topic shows as sent is sent to the broker in the same turn. -/
theorem topicTurn
    (linked : Linked setup session)
    (place : Nat)
    (contextFirst : Bool)
    (pick : Delays → Duration) :
    Linked setup (session.step (.topicTurn place contextFirst pick)) := by
  obtain ⟨feed, flowing⟩ := linked.flowing
  rw [Session.step]
  generalize looked : session.sending place = turn
  rw [Session.sending] at looked
  split at looked
  next batch failures found =>
    subst looked
    obtain ⟨accepted, records, later⟩ := flowing.send 0 (batch.map Entry.item)
    simp only [accepted]
    refine ⟨?topic, linked.subscription, ⟨_, later⟩, ?sent, ?received⟩
    case topic => exact linked.topic_step (.turn ..)
    case sent =>
      rw [Topic.Session.dispatched, Topic.delivered_step_of_returned found rfl,
        List.flatten_append, List.map_append, ← Topic.Session.dispatched, ← linked.sent,
        Broker.Session.sent_append records]
      simp [Broker.Record.envelopes]
    case received =>
      rw [Broker.Session.handedOut_append records, linked.received]
      exact (List.append_nil _).symm
  next =>
    subst looked
    refine linked.of_topic (.turn ..) fun _ _ same => ?_
    cases same
    rfl

/-! ## Turns of the subscription -/

/-- A call that begins is handed out nothing yet. -/
theorem begin
    (linked : Linked setup session)
    (request : Nat × Nat × Nat) : Linked setup (session.begin request) := by
  obtain ⟨feed, flowing⟩ := linked.flowing
  exact ⟨linked.topic, linked.subscription,
    ⟨feed, flowing.receive session.asked.length request.2.2⟩, linked.sent, linked.received⟩

theorem foldl_begin (linked : Linked setup session) (requests : List (Nat × Nat × Nat)) :
    Linked setup (requests.foldl Session.begin session) := by
  induction requests generalizing session with
  | nil => exact linked
  | cons request later hypothesis => exact hypothesis (linked.begin request)

/-- The driver is told of tokens that the feed has put on messages, so it acknowledges them. -/
theorem settling_idle (linked : Linked setup session) (place : Nat) :
    Idle setup.ackDeadline session.broker (session.settling place).2 := by
  obtain ⟨feed, flowing⟩ := linked.flowing
  obtain ⟨moves, calm, subscription⟩ := linked.subscription
  unfold Session.settling
  split
  next batch calls found =>
    split
    next call failures feed running present =>
      have asked : .asked (.sendAcks batch calls.place call) ∈ session.subscription.records := by
        have sending : Subscription.Sending session.subscription :=
          subscription ▸ Subscription.sending_sessionOf rfl moves
        exact (sending.calling batch calls (List.mem_of_getElem? found)).called _ _ _ running
      have isAck : call.isAck = true :=
        Subscription.isAck_of_sent calm rfl (subscription ▸ asked)
      have known : ∀ id ∈ call.ids,
          ∃ envelope ∈ session.broker.handedOut 0, envelope.ackId = some id := by
        intro id told
        obtain ⟨envelope, popped, token⟩ :=
          Subscription.exists_popped_of_sent rfl moves (subscription ▸ asked) told
        rw [← subscription] at popped
        exact ⟨envelope, linked.received ▸ linked.mem_brought_of_popped popped, token⟩
      obtain ⟨numbers, -, records, later⟩ := flowing.acknowledge 0 known
      simp only [isAck, if_true]
      refine ⟨⟨_, later⟩, ?_, ?_⟩
      · simpa [Broker.Record.envelopes] using Broker.Session.sent_append records
      · simpa [Broker.Record.handedOut] using Broker.Session.handedOut_append records
    next => exact .refl flowing
  next => exact .refl flowing

/-- What a background receive is returned is what the feed hands out in the same turn. -/
theorem subscriptionTurn
    (linked : Linked setup session)
    (inTime : session.broker.isInTime 0 = true)
    (place : Nat)
    (contextFirst : Bool)
    (pick : Delays → Duration) :
    Linked setup (session.step (.subscriptionTurn place contextFirst pick)) := by
  obtain ⟨feed, flowing⟩ := linked.flowing
  have fetching := fetching_of_isInTime flowing inTime place contextFirst
  rw [Session.step]
  generalize session.receiving place contextFirst = turn at fetching
  cases fetching with
  | running idle =>
      have received := linked.of_idle idle
      have settled := received.of_idle (received.settling_idle place)
      refine foldl_begin (settled.of_subscription (.turn ..) (.inl rfl) fun _ _ same => ?_) _
      cases same
      rfl
  | @returned after feed number member calls envelopes found awaited flowing sent handedOut =>
      have idle : ({ session with broker := after }.settling place) = (.running, after) := by
        simp only [Session.settling, found]
      have tokens : ∀ envelope ∈ envelopes, envelope.ackId.isSome = true := by
        intro envelope taken
        have isIssued : envelope ∈ after.issued := by
          rw [← flowing.flow, handedOut]
          exact List.mem_append_left _ (List.mem_append_right _ taken)
        obtain ⟨message, -, rfl⟩ := List.mem_map.mp isIssued
        rfl
      simp only [idle]
      refine foldl_begin ?_ _
      refine ⟨linked.topic, ?subscription, ⟨feed, flowing⟩, sent.trans linked.sent, ?received⟩
      case subscription =>
        exact linked.subscription_step (.turn ..) (.inr ⟨envelopes, rfl, tokens⟩)
      case received =>
        rw [Subscription.brought_step_of_returned found awaited rfl, linked.received, handedOut]

/-! ## Moves -/

/-- As long as no deadline has passed, a move keeps the links. -/
theorem step
    (linked : Linked setup session)
    (inTime : session.broker.isInTime 0 = true)
    (move : Move) : Linked setup (session.step move) := by
  cases move with
  | send context message => exact linked.of_topic (.send ..) (by simp)
  | abandonSend place => exact linked.of_topic (.abandon _) (by simp)
  | receive context => exact linked.of_subscription (.receive _) trivial (by simp)
  | acknowledge place => exact linked.of_subscription (.complete _ true) rfl (by simp)
  | discard place => exact linked.of_subscription (.discard _) trivial (by simp)
  | abandonReceive place => exact linked.of_subscription (.abandon _) trivial (by simp)
  | cancel context =>
      have topic := linked.of_topic (.cancel context) (by simp)
      exact topic.of_subscription (.cancel context) trivial (by simp)
  | elapse nanos =>
      obtain ⟨feed, flowing⟩ := linked.flowing
      have topic := linked.of_topic (.elapse nanos) (by simp)
      have broker := topic.of_idle (.of_records (flowing.elapse nanos) rfl)
      exact broker.of_subscription (.elapse nanos) trivial (by simp)
  | topicTurn place contextFirst pick => exact linked.topicTurn ..
  | subscriptionTurn place contextFirst pick => exact linked.subscriptionTurn inTime ..

end Linked

/-- No deadline of a message that the feed holds passes in a run. -/
def InTime (setup : Setup Number) (moves : List Move) : Prop :=
  ∀ earlier ∈ moves.inits, (sessionOf setup earlier).broker.isInTime 0 = true

theorem linked_sessionOf
    {setup : Setup Number}
    {moves : List Move}
    (inTime : InTime setup moves) : Linked setup (sessionOf setup moves) := by
  induction moves using List.reverseRecOn with
  | nil => exact .create setup
  | append_singleton moves move hypothesis =>
      have before : ∀ earlier ∈ moves.inits, earlier ∈ (moves ++ [move]).inits := by
        intro earlier first
        rw [List.mem_inits] at first ⊢
        exact first.trans (List.prefix_append _ _)
      rw [sessionOf_append_singleton]
      refine (hypothesis fun earlier first => inTime earlier (before earlier first)).step ?_ move
      exact inTime moves (before moves ((List.mem_inits _ _).mpr (List.prefix_refl _)))

end Pipeline
end PubSub
