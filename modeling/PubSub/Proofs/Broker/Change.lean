import Mathlib.Data.List.Induction
import PubSub.Proofs.Broker.Looking
import PubSub.Proofs.Broker.Session

/-!
# What a move does to a session of the broker

`Change` lists everything that can happen to a session, with all that is known when it happens.
Every move is a change, so whatever survives every change holds after every list of moves.
`Passage` is a change as one feed sees it: of what happens elsewhere, only the messages that are
sent matter.
-/

namespace PubSub
namespace Broker

/-- Messages are sent to every feed that is open. -/
def deliver (broker : Broker) (envelopes : List Envelope) : Broker :=
  { broker with
    nextId := broker.nextId + envelopes.length
    feeds := broker.feeds.map fun feed =>
      if feed.isClosed then feed else feed.add broker.nextId envelopes }

/-- Everything that can happen to a session. -/
inductive Change (session : Session) : Session → Prop
  | attached (ackDeadline : Option Duration) :
      Change session
        { session with
          broker := session.broker.attach ackDeadline
          records := session.records ++ [.attached session.broker.feeds.length] }
  | sent (envelopes : List Envelope) :
      Change session
        { session with
          broker := session.broker.deliver envelopes
          records := session.records ++ [.sent session.broker.nextId envelopes] }
  | acknowledged
      {place : Nat}
      {feed : Feed}
      (present : session.broker.feed? place = some feed)
      (numbers : List Nat) :
      Change session
        { session with
          broker := session.broker.setFeed place (feed.forget numbers)
          records := session.records ++ [.acknowledged place numbers] }
  | refused
      {place : Nat}
      {feed : Feed}
      (present : session.broker.feed? place = some feed)
      (numbers : List Nat) :
      Change session
        { session with
          broker := session.broker.setFeed place (feed.release numbers)
          records := session.records ++ [.refused place numbers] }
  | handedOut
      {place : Nat}
      {feed : Feed}
      {calls : List Call}
      (present : session.broker.feed? place = some feed)
      (known : calls ⊆ session.calls)
      (requested : Nat)
      (found : (feed.look session.now requested).taken ≠ []) :
      Change session
        { session with
          broker :=
            session.broker.setFeed place
              { feed with messages := (feed.look session.now requested).left }
          calls
          records := session.records ++
            [.received place session.now (.ok (feed.look session.now requested).taken)] }
  | foundNothing
      {call : Call}
      {seen : Nat}
      {feed : Feed}
      {calls : List Call}
      (present : session.broker.feed? call.place = some feed)
      (member : call ∈ session.calls)
      (looking : call.receiver.stage = .looking seen)
      (known : calls ⊆ session.calls)
      (nothing : ∀ held ∈ feed.messages, held.2.isDue session.now = false) :
      Change session
        { session with
          calls :=
            { call with
              receiver :=
                { call.receiver with stage := .waiting ⟨seen, Feed.earliest feed.messages⟩ } }
              :: calls }
  | opened
      {call : Call}
      {feed : Feed}
      {calls : List Call}
      (present : session.broker.feed? call.place = some feed)
      (known : calls ⊆ session.calls) :
      Change session
        { session with
          calls :=
            { call with receiver := { call.receiver with stage := .looking feed.arrivals } }
              :: calls }
  | began
      {call : Call}
      {calls : List Call}
      (opening : call.receiver.stage = .opening)
      (known : calls ⊆ session.calls) :
      Change session { session with calls := call :: calls }
  | failed
      {calls : List Call}
      (known : calls ⊆ session.calls)
      (place : Nat)
      (error : BrokerError) :
      Change session
        { session with
          calls
          records := session.records ++ [.received place session.now (.error error)] }
  | left {calls : List Call} (known : calls ⊆ session.calls) : Change session { session with calls }
  | closed : Change session { session with broker := session.broker.close }
  | feedClosed (place : Nat) :
      Change session { session with broker := session.broker.closeFeed place }
  | cancelled (context : Nat) :
      Change session { session with cancelled := context :: session.cancelled }
  | elapsed (nanos : Nat) : Change session { session with now := session.now + nanos }

/-! ## Moves are changes -/

theorem setFeed_self
    {broker : Broker}
    {place : Nat}
    {feed : Feed}
    (present : broker.feed? place = some feed) :
    broker.setFeed place feed = broker := by
  have same : broker.feeds.set place feed = broker.feeds := by
    obtain ⟨inside, rfl⟩ := List.getElem?_eq_some_iff.mp present
    exact List.set_getElem_self inside
  rw [setFeed, same]

variable {session : Session}

/-- A move that changes nothing. -/
theorem Change.refl (session : Session) : Change session session :=
  .left (List.Subset.refl session.calls)

/-- A call of a feed takes a turn. -/
theorem change_turn
    {call : Call}
    {others : List Call}
    {feed : Feed}
    (present : session.broker.feed? call.place = some feed)
    (member : call ∈ session.calls)
    (known : others ⊆ session.calls)
    (contextFirst : Bool) :
    Change session (session.turn contextFirst others feed call) := by
  have same := setFeed_self present
  cases stage : call.receiver.stage with
  | opening =>
      simp only [Session.turn, FeedReceiver.step, stage]
      cases feed.checkOpen (session.cancelled.contains call.context) with
      | error error =>
          simp only [same]
          exact .failed known call.place error
      | ok permission =>
          simp only [same, answerRecords, List.append_nil]
          exact .opened present known
  | looking seen =>
      simp only [Session.turn, FeedReceiver.step, stage, Session.moment]
      by_cases found : (feed.look session.now call.receiver.requested).taken = []
      · obtain ⟨nothing, walk⟩ := Feed.look_of_taken_eq_nil found
        simp only [walk, same, List.isEmpty_nil, if_true, answerRecords, List.append_nil]
        exact .foundNothing present member stage known nothing
      · simp only [List.isEmpty_eq_false_iff.mpr found, Bool.false_eq_true, if_false]
        exact .handedOut present known call.receiver.requested found
  | waiting watch =>
      simp only [Session.turn, FeedReceiver.step, stage, FeedReceiver.onWatch, same]
      split
      · exact .failed known call.place .canceled
      · split
        · simp only [answerRecords, List.append_nil]
          exact .began rfl known
        · split
          · exact .failed known call.place .subscriptionClosed
          · split
            · exact .failed known call.place .canceled
            · simp only [answerRecords, List.append_nil]
              exact .left (List.cons_subset.mpr ⟨member, known⟩)

/-- Settling messages does what it does to the feed and is recorded, or nothing happens. -/
theorem settle_cases
    (session : Session)
    (place context : Nat)
    (ids : List AckId)
    (happened : List Nat → Record)
    (operation : Feed → Bool → List AckId → Except BrokerError Unit × Feed)
    (effect : Feed → List Nat → Feed)
    (carried : ∀ feed cancelled, operation feed cancelled ids =
      match feed.permitted cancelled ids with
      | .error error => (.error error, feed)
      | .ok numbers => (.ok (), effect feed numbers)) :
    session.settle place context ids operation happened = session ∨
      ∃ feed numbers, session.broker.feed? place = some feed ∧
        session.settle place context ids operation happened =
          { session with
            broker := session.broker.setFeed place (effect feed numbers)
            records := session.records ++ [happened numbers] } := by
  unfold Session.settle
  cases present : session.broker.feed? place with
  | none => exact .inl rfl
  | some feed =>
      simp only [carried]
      cases feed.permitted (session.cancelled.contains context) ids with
      | error error =>
          left
          simp only [setFeed_self present, List.append_nil]
      | ok numbers => exact .inr ⟨feed, numbers, rfl, rfl⟩

/-- Every move is a change. -/
theorem change_step (session : Session) (move : Move) : Change session (session.step move) := by
  cases move with
  | attach ackDeadline => exact .attached ackDeadline
  | send context envelopes =>
      simp only [Session.step, send]
      split
      · simpa using Change.refl session
      · split
        · simpa using Change.refl session
        · exact .sent envelopes
  | receive place context requested => exact .began rfl (List.Subset.refl session.calls)
  | acknowledge place context ids =>
      obtain unchanged | ⟨feed, numbers, present, settled⟩ :=
        settle_cases session place context ids (.acknowledged place) Feed.acknowledge
          Feed.forget fun _ _ => rfl
      · simpa only [Session.step, unchanged] using Change.refl session
      · simpa only [Session.step, settled] using Change.acknowledged present numbers
  | refuse place context ids =>
      obtain unchanged | ⟨feed, numbers, present, settled⟩ :=
        settle_cases session place context ids (.refused place) Feed.refuse
          Feed.release fun _ _ => rfl
      · simpa only [Session.step, unchanged] using Change.refl session
      · simpa only [Session.step, settled] using Change.refused present numbers
  | cancel context => exact .cancelled context
  | abandon index => exact .left (List.eraseIdx_subset ..)
  | close => exact .closed
  | closeFeed place => exact .feedClosed place
  | elapse nanos => exact .elapsed nanos
  | turn index contextFirst =>
      cases here : session.calls[index]? with
      | none => simpa only [Session.step, here] using Change.refl session
      | some call =>
          cases present : session.broker.feed? call.place with
          | none => simpa only [Session.step, here, present] using Change.refl session
          | some feed =>
              simpa only [Session.step, here, present] using
                change_turn present (List.mem_of_getElem? here) List.eraseIdx_subset contextFirst

/-- What holds of a new broker and survives every change holds after every list of moves. -/
theorem sessionOf_induction
    {motive : Session → Prop}
    (create : motive {})
    (change : ∀ {before after}, Change before after → motive before → motive after)
    (moves : List Move) : motive (sessionOf moves) := by
  induction moves using List.reverseRecOn with
  | nil => exact create
  | append_singleton moves move hypothesis =>
      rw [sessionOf_append_singleton]
      exact change (change_step _ move) hypothesis

/-! ## What a feed sees of a change -/

/-- Whether a record says nothing about the messages of the feed at a place. -/
def Record.IsAside (place : Nat) : Record → Prop
  | .attached other => other ≠ place
  | .sent .. => False
  | .received other _ (.ok _) => other ≠ place
  | .received _ _ (.error _) => True
  | .acknowledged other _ => other ≠ place
  | .refused other _ => other ≠ place

/-- A change as the feed at a place sees it. -/
inductive Passage (place : Nat) (before after : Session) : Prop
  | created
      (absent : before.broker.feed? place = none)
      (ackDeadline : Option Duration)
      (present : after.broker.feed? place = some { ackDeadline })
      (records : after.records = before.records ++ [.attached place])
      (nextId : after.broker.nextId = before.broker.nextId)
  | sent
      (envelopes : List Envelope)
      (present : after.broker.feed? place =
        (before.broker.feed? place).map fun feed =>
          if feed.isClosed then feed else feed.add before.broker.nextId envelopes)
      (records : after.records = before.records ++ [.sent before.broker.nextId envelopes])
      (nextId : after.broker.nextId = before.broker.nextId + envelopes.length)
  | forgot
      {feed : Feed}
      (earlier : before.broker.feed? place = some feed)
      (numbers : List Nat)
      (present : after.broker.feed? place = some (feed.forget numbers))
      (records : after.records = before.records ++ [.acknowledged place numbers])
      (nextId : after.broker.nextId = before.broker.nextId)
  | released
      {feed : Feed}
      (earlier : before.broker.feed? place = some feed)
      (numbers : List Nat)
      (present : after.broker.feed? place = some (feed.release numbers))
      (records : after.records = before.records ++ [.refused place numbers])
      (nextId : after.broker.nextId = before.broker.nextId)
  | handedOut
      {feed : Feed}
      (earlier : before.broker.feed? place = some feed)
      (requested : Nat)
      (present : after.broker.feed? place =
        some { feed with messages := (feed.look before.now requested).left })
      (records : after.records = before.records ++
        [.received place before.now (.ok (feed.look before.now requested).taken)])
      (nextId : after.broker.nextId = before.broker.nextId)
  | closed
      {feed : Feed}
      (earlier : before.broker.feed? place = some feed)
      (present : after.broker.feed? place = some { feed with isClosed := true })
      (records : after.records = before.records)
      (nextId : after.broker.nextId = before.broker.nextId)
  | aside
      {happened : List Record}
      (present : after.broker.feed? place = before.broker.feed? place)
      (records : after.records = before.records ++ happened)
      (apart : ∀ record ∈ happened, record.IsAside place)
      (nextId : after.broker.nextId = before.broker.nextId)

section Places

variable {broker : Broker} {place other : Nat} {feed : Feed}

theorem feed?_setFeed_self (present : broker.feed? place = some feed) (later : Feed) :
    (broker.setFeed place later).feed? place = some later := by
  obtain ⟨inside, -⟩ := List.getElem?_eq_some_iff.mp present
  exact List.getElem?_set_self inside

theorem feed?_setFeed_of_ne (differ : other ≠ place) (later : Feed) :
    (broker.setFeed other later).feed? place = broker.feed? place :=
  List.getElem?_set_ne differ

theorem feed?_attach_of_ne (differ : broker.feeds.length ≠ place) (ackDeadline : Option Duration) :
    (broker.attach ackDeadline).feed? place = broker.feed? place := by
  rcases Nat.lt_or_gt_of_ne differ with beyond | inside
  · simpa [attach, feed?, Nat.le_of_lt beyond] using Nat.succ_le_of_lt beyond
  · exact List.getElem?_append_left inside

theorem feed?_closeFeed_of_ne (differ : other ≠ place) :
    (broker.closeFeed other).feed? place = broker.feed? place := by
  simp [closeFeed, feed?, differ]

end Places

/-- Every change is a passage for every feed. -/
theorem Change.passage {before after : Session} (change : Change before after) (place : Nat) :
    Passage place before after := by
  cases change with
  | attached ackDeadline =>
      by_cases here : before.broker.feeds.length = place
      · subst here
        exact .created (List.getElem?_eq_none (Nat.le_refl _)) ackDeadline
          (by simp [attach, feed?]) rfl rfl
      · exact .aside (feed?_attach_of_ne here ackDeadline) rfl (by simpa [Record.IsAside]) rfl
  | sent envelopes => exact .sent envelopes (by simp [deliver, feed?]) rfl rfl
  | @acknowledged other feed present numbers =>
      by_cases here : other = place
      · subst here
        exact .forgot present numbers (feed?_setFeed_self present _) rfl rfl
      · exact .aside (feed?_setFeed_of_ne here _) rfl (by simpa [Record.IsAside]) rfl
  | @refused other feed present numbers =>
      by_cases here : other = place
      · subst here
        exact .released present numbers (feed?_setFeed_self present _) rfl rfl
      · exact .aside (feed?_setFeed_of_ne here _) rfl (by simpa [Record.IsAside]) rfl
  | @handedOut other feed calls present known requested found =>
      by_cases here : other = place
      · subst here
        exact .handedOut present requested (feed?_setFeed_self present _) rfl rfl
      · exact .aside (feed?_setFeed_of_ne here _) rfl (by simpa [Record.IsAside]) rfl
  | failed => exact .aside rfl rfl (by simp [Record.IsAside]) rfl
  | feedClosed other =>
      by_cases here : other = place
      · subst here
        cases earlier : before.broker.feed? other with
        | none =>
            refine .aside ?_ (List.append_nil _).symm (by simp) rfl
            rw [feed?] at earlier
            simp [closeFeed, feed?, earlier]
        | some feed =>
            refine .closed earlier ?_ rfl rfl
            rw [feed?] at earlier
            simp [closeFeed, feed?, earlier]
      · exact .aside (feed?_closeFeed_of_ne here) (List.append_nil _).symm (by simp) rfl
  | foundNothing | opened | began | left | closed | cancelled | elapsed =>
      exact .aside rfl (List.append_nil _).symm (by simp) rfl

end Broker
end PubSub
