import PubSub.Proofs.Broker.Dispensing

/-!
# What a token of the broker names

A token is the number of a message. The feeds of a topic hold their copies of a message under the
same number, and every topic counts from zero, so a token tells neither the feed nor the topic that
it comes from. A feed takes every token of the broker for one of its own, and only tokens of another
kind are foreign to it.

What a call settles is therefore up to the feed that it is made at. With tokens of its own topic it
settles copies of the messages that were handed out with them; with tokens that it has handed out
itself, messages that it has handed out. Other feeds are never touched.
-/

namespace PubSub
namespace Broker

/-! ## Several topics -/

/-- Whether a move is noticed at every topic: time passes and contexts end everywhere. -/
def Move.isShared : Move → Bool
  | .cancel _ => true
  | .elapse _ => true
  | _ => false

/-- Topics with their feeds, named by numbers. Nothing has happened to one that nobody uses. -/
abbrev Topics := Nat → Session

/-- A move is made at one of several topics. -/
def Topics.step (topics : Topics) (visit : Nat × Move) : Topics := fun topic =>
  if visit.1 = topic || visit.2.isShared then (topics topic).step visit.2 else topics topic

/-- New topics after a list of moves at them. -/
def topicsOf (visits : List (Nat × Move)) : Topics := visits.foldl Topics.step fun _ => {}

/-- The moves that are noticed at a topic. -/
def noticed (topic : Nat) (visits : List (Nat × Move)) : List Move :=
  (visits.filter fun visit => visit.1 = topic || visit.2.isShared).map Prod.snd

/-- What happens to several topics is for each of them a session of its own. -/
theorem topicsOf_eq_sessionOf (visits : List (Nat × Move)) (topic : Nat) :
    topicsOf visits topic = sessionOf (noticed topic visits) := by
  induction visits using List.reverseRecOn with
  | nil => rfl
  | append_singleton visits visit hypothesis =>
      have made : topicsOf (visits ++ [visit]) = (topicsOf visits).step visit :=
        List.foldl_concat ..
      have heard :
          noticed topic (visits ++ [visit]) = noticed topic visits ++ noticed topic [visit] := by
        rw [noticed, List.filter_append, List.map_append]
        rfl
      rw [made, heard, Topics.step, hypothesis]
      by_cases notices : (visit.1 = topic || visit.2.isShared) = true
      · have alone : noticed topic [visit] = [visit.2] := by simp [noticed, notices]
        rw [if_pos notices, alone, sessionOf_append_singleton]
      · have alone : noticed topic [visit] = [] := by simp [noticed, notices]
        rw [if_neg notices, alone, List.append_nil]

/-! ## Messages and their tokens -/

namespace Session

/-- The messages that were sent to a topic, under their numbers, oldest first. -/
def posted (session : Session) : List (Nat × Envelope) := session.records.flatMap Record.arrivals

/-- Whether the feed at a place has handed out a message with a token. -/
def HasIssued (session : Session) (place : Nat) (id : AckId) : Prop :=
  ∃ envelope ∈ session.handedOut place, envelope.ackId = some id

/-- What the feed at a place holds and has handed out was sent under the same number. -/
structure Genuine (session : Session) (place : Nat) : Prop where
  held : ∀ feed, session.broker.feed? place = some feed → feed.contents ⊆ session.posted
  handedOut : ∀ envelope ∈ session.handedOut place, ∃ ackDeadline, ∃ message ∈ session.posted,
    envelope = Feed.delivered ackDeadline message

variable {session before after : Session} {place : Nat} {happened : List Record}

theorem posted_append (records : after.records = before.records ++ happened) :
    after.posted = before.posted ++ happened.flatMap Record.arrivals := by
  rw [posted, records, List.flatMap_append, ← posted]

theorem ackId_of_mem_posted
    {message : Nat × Envelope}
    (member : message ∈ session.posted) : message.2.ackId = none := by
  obtain ⟨record, -, sends⟩ := List.mem_flatMap.mp member
  exact Record.ackId_of_mem_arrivals sends

/-- Nothing that is not known is held afterwards, and nothing is handed out. -/
theorem Genuine.of_silent
    (genuine : before.Genuine place)
    (records : after.records = before.records ++ happened)
    (silent : happened.flatMap (Record.handedOut place) = [])
    (held : ∀ feed, after.broker.feed? place = some feed → feed.contents ⊆ after.posted) :
    after.Genuine place where
  held := held
  handedOut envelope member := by
    rw [handedOut_append records, silent, List.append_nil] at member
    obtain ⟨ackDeadline, message, known, same⟩ := genuine.handedOut envelope member
    exact ⟨ackDeadline, message, posted_append records ▸ List.mem_append_left _ known, same⟩

end Session

variable {session before after : Session} {place : Nat}

theorem keys_posted (moves : List Move) :
    (sessionOf moves).posted.map Prod.fst = List.range (sessionOf moves).broker.nextId := by
  rw [← numbers_eq_range, Session.posted, List.map_flatMap]
  exact List.flatMap_congr fun record _ => record.keys_arrivals

/-- Whatever happens, a feed holds and hands out what was sent. -/
theorem Passage.genuine
    (passage : Passage place before after)
    (genuine : before.Genuine place) : after.Genuine place := by
  -- What was held or less, and what was sent before or more.
  have kept {earlier later : Feed} {happened : List Record}
      (present : before.broker.feed? place = some earlier)
      (follows : after.broker.feed? place = some later)
      (records : after.records = before.records ++ happened)
      (fewer : later.contents ⊆ earlier.contents) (feed : Feed)
      (known : after.broker.feed? place = some feed) : feed.contents ⊆ after.posted := by
    obtain rfl := Option.some.inj (follows.symm.trans known)
    rw [Session.posted_append records]
    have held : later.contents ⊆ before.posted :=
      List.Subset.trans fewer (genuine.held earlier present)
    exact List.Subset.trans held (List.subset_append_left ..)
  cases passage with
  | created absent ackDeadline created records nextId =>
      refine genuine.of_silent records rfl fun feed known => ?_
      obtain rfl := Option.some.inj (created.symm.trans known)
      exact List.nil_subset _
  | sent envelopes added records nextId =>
      refine genuine.of_silent records rfl fun feed known => ?_
      obtain ⟨earlier, present, rfl⟩ := Option.map_eq_some_iff.mp (added.symm.trans known)
      have held := genuine.held earlier present
      rw [Session.posted_append records, List.flatMap_singleton]
      split
      · exact List.Subset.trans held (List.subset_append_left ..)
      · rw [Feed.contents_add]
        exact List.append_subset.mpr
          ⟨List.Subset.trans held (List.subset_append_left ..), List.subset_append_right ..⟩
  | @forgot feed earlier numbers forgotten records nextId =>
      exact genuine.of_silent records rfl
        (kept earlier forgotten records (feed.contents_forget_sublist numbers).subset)
  | @released feed earlier numbers released records nextId =>
      exact genuine.of_silent records rfl
        (kept earlier released records fun _ member => feed.contents_release numbers ▸ member)
  | @closed feed earlier closed records nextId =>
      exact genuine.of_silent (records.trans (List.append_nil _).symm) rfl
        (kept earlier closed (records.trans (List.append_nil _).symm) (List.Subset.refl _))
  | @aside happened same records apart nextId =>
      have silent : happened.flatMap (Record.handedOut place) = [] := by
        rw [handedOut_eq_flatten, List.filterMap_eq_nil_iff.mpr fun record member =>
          (apart record member).silent.2, List.flatten_nil]
      refine genuine.of_silent records silent fun feed known => ?_
      exact kept (same.symm.trans known) known records (List.Subset.refl _) feed known
  | @handedOut feed earlier requested looked records nextId =>
      refine ⟨kept earlier looked records Feed.map_bare_left_sublist.subset,
        fun envelope member => ?_⟩
      rw [Session.posted_append records]
      rw [Session.handedOut_append records, List.mem_append] at member
      rcases member with old | new
      · obtain ⟨ackDeadline, message, known, same⟩ := genuine.handedOut envelope old
        exact ⟨ackDeadline, message, List.mem_append_left _ known, same⟩
      · rw [List.flatMap_singleton, Record.handedOut, if_pos rfl, Feed.taken_look] at new
        obtain ⟨message, taken, same⟩ := List.mem_map.mp new
        have known := genuine.held feed earlier ((feed.handOut_sublist _ requested).subset taken)
        exact ⟨feed.ackDeadline, message, List.mem_append_left _ known, same.symm⟩

theorem genuine (moves : List Move) (place : Nat) : (sessionOf moves).Genuine place :=
  sessionOf_induction (motive := (Session.Genuine · place))
    ⟨by simp [feed?], by simp [Session.handedOut]⟩
    (fun change genuine => (change.passage place).genuine genuine) moves

/-! ## Whose message a token names -/

variable {visits : List (Nat × Move)} {topic maker : Nat} {feed : Feed} {envelope : Envelope}
  {id : AckId} {held : Nat × HeldMessage}

/-- A token is the number of the message that it was handed out with. -/
theorem exists_posted_of_token
    (genuine : session.Genuine place)
    (member : envelope ∈ session.handedOut place)
    (token : envelope.ackId = some id) :
    ∃ message ∈ session.posted, id = .broker message.1 ∧ envelope = issue message.swap := by
  obtain ⟨ackDeadline, message, known, rfl⟩ := genuine.handedOut envelope member
  refine ⟨message, known, ?_⟩
  cases ackDeadline with
  | none =>
      rw [Feed.delivered, Session.ackId_of_mem_posted known] at token
      exact absurd token (Option.some_ne_none _).symm
  | some span => exact ⟨(Option.some.inj token).symm, rfl⟩

/-- Whatever feed it comes from, a token that was handed out is one of the broker. -/
theorem exists_number_of_issued
    (visits : List (Nat × Move))
    (issued : (topicsOf visits topic).HasIssued place id) : ∃ number, id = .broker number := by
  rw [topicsOf_eq_sessionOf] at issued
  obtain ⟨envelope, member, token⟩ := issued
  obtain ⟨message, -, named, -⟩ := exists_posted_of_token (genuine _ place) member token
  exact ⟨message.1, named⟩

/-- A message that was handed out with a token is the one that every feed of the topic holds under
its number. -/
theorem eq_of_token
    (visits : List (Nat × Move))
    (present : (topicsOf visits topic).broker.feed? place = some feed)
    (inside : held ∈ feed.messages)
    (member : envelope ∈ (topicsOf visits topic).handedOut maker)
    (token : envelope.ackId = some (.broker held.1)) :
    envelope = issue (held.2.envelope, held.1) := by
  rw [topicsOf_eq_sessionOf] at present member
  obtain ⟨message, known, named, same⟩ := exists_posted_of_token (genuine _ maker) member token
  have sent := (genuine (noticed topic visits) place).held feed present (List.mem_map_of_mem inside)
  have distinct : ((sessionOf (noticed topic visits)).posted.map Prod.fst).Nodup := by
    rw [keys_posted]
    exact List.nodup_range
  obtain rfl : message = Feed.bare held :=
    List.inj_on_of_nodup_map distinct known sent (AckId.broker.inj named).symm
  exact same

end Broker

/-! ## Calls that settle messages -/

namespace Feed

/-- What a call that acknowledges messages, or refuses them, does to a feed. -/
def settled (feed : Feed) (isAck cancelled : Bool) (ids : List AckId) :
    Except BrokerError Unit × Feed :=
  if isAck then feed.acknowledge cancelled ids else feed.refuse cancelled ids

/-- A call takes all its tokens for numbers and leaves the messages of other numbers as they are, or
it is turned away. -/
theorem settled_cases (feed : Feed) (isAck cancelled : Bool) (ids : List AckId) :
    (∃ numbers : List Nat,
      ids = numbers.map .broker ∧ (feed.settled isAck cancelled ids).1 = .ok () ∧
        ∀ held ∈ feed.messages, held.1 ∉ numbers →
          held ∈ (feed.settled isAck cancelled ids).2.messages) ∨
      ∃ error, feed.TurnsAway cancelled ids error ∧
        feed.settled isAck cancelled ids = (.error error, feed) := by
  rcases permitted_cases feed cancelled ids with
    ⟨numbers, allowed, named, -⟩ | ⟨error, refused, turnsAway⟩
  · refine .inl ⟨numbers, named, ?_⟩
    cases isAck with
    | true =>
        have done : feed.settled true cancelled ids = (.ok (), feed.forget numbers) := by
          rw [settled, if_pos rfl, acknowledge, allowed]
        rw [done]
        exact ⟨rfl, fun held member unnamed => List.mem_filter.mpr ⟨member, by simpa using unnamed⟩⟩
    | false =>
        have done : feed.settled false cancelled ids = (.ok (), feed.release numbers) := by
          rw [settled, if_neg Bool.false_ne_true, refuse, allowed]
        rw [done]
        exact ⟨rfl, fun held member unnamed => List.mem_map.mpr ⟨held, member, if_neg unnamed⟩⟩
  · refine .inr ⟨error, turnsAway, ?_⟩
    cases isAck with
    | true => rw [settled, if_pos rfl, acknowledge, refused]
    | false => rw [settled, if_neg Bool.false_ne_true, refuse, refused]

end Feed

namespace Broker

/-- A call that acknowledges messages, or refuses them. -/
def Move.settling (isAck : Bool) (place context : Nat) (ids : List AckId) : Move :=
  if isAck then .acknowledge place context ids else .refuse place context ids

variable {session : Session} {topics : Topics} {topic other place elsewhere context : Nat}
  {ids : List AckId} {feed : Feed} {isAck : Bool}

theorem broker_step_settling (present : session.broker.feed? place = some feed) :
    (session.step (.settling isAck place context ids)).broker =
      session.broker.setFeed place
        (feed.settled isAck (session.cancelled.contains context) ids).2 := by
  cases isAck with
  | true => simp only [Move.settling, Session.step, Session.settle, present, Feed.settled, if_true]
  | false =>
      simp only [Move.settling, Session.step, Session.settle, present, Feed.settled,
        Bool.false_eq_true, if_false]

namespace Topics

theorem step_settling_self (topics : Topics) :
    topics.step (topic, .settling isAck place context ids) topic =
      (topics topic).step (.settling isAck place context ids) := by
  rw [step, if_pos (by simp)]

/-- A call at a topic is not noticed at another one. -/
theorem step_settling_of_ne (topics : Topics) (differ : topic ≠ other) :
    topics.step (topic, .settling isAck place context ids) other = topics other := by
  have unnoticed : (Move.settling isAck place context ids).isShared = false := by
    cases isAck <;> rfl
  rw [step, if_neg (by simp [differ, unnoticed])]

/-- A call that is turned away has no effect at any topic. -/
theorem step_settling_of_turnsAway
    {error : BrokerError}
    (present : (topics topic).broker.feed? place = some feed)
    (turnsAway : feed.TurnsAway ((topics topic).cancelled.contains context) ids error) :
    topics.step (topic, .settling isAck place context ids) = topics := by
  funext other
  by_cases here : topic = other
  · subst here
    rw [step_settling_self]
    obtain ⟨acknowledged, refused⟩ := step_of_turnsAway present turnsAway
    cases isAck with
    | true => exact acknowledged
    | false => exact refused
  · exact topics.step_settling_of_ne here

/-- A call at a feed touches no other feed. -/
theorem feed?_step_settling_of_ne
    (present : (topics topic).broker.feed? place = some feed)
    (differ : (other, elsewhere) ≠ (topic, place)) :
    (topics.step (topic, .settling isAck place context ids) other).broker.feed? elsewhere =
      (topics other).broker.feed? elsewhere := by
  by_cases here : topic = other
  · subst here
    have apart : place ≠ elsewhere := fun same => differ (by rw [same])
    rw [step_settling_self, broker_step_settling present, feed?_setFeed_of_ne apart]
  · rw [topics.step_settling_of_ne here]

end Topics

/-- A call fails with any token that is not one of the broker, but not with a token of another feed,
which it takes for its own. It touches its own feed only, and there only messages that its tokens
name; with tokens that the feed has handed out, these are the messages handed out with them. -/
theorem settled_as_tokens_name
    (visits : List (Nat × Move))
    {topic place : Nat}
    {feed : Feed}
    (present : (topicsOf visits topic).broker.feed? place = some feed)
    (isAck : Bool)
    (context : Nat)
    (ids : List AckId) :
    let topics := topicsOf visits
    let session := topics topic
    let cancelled := session.cancelled.contains context
    let outcome := feed.settled isAck cancelled ids
    let later := topics.step (topic, .settling isAck place context ids)
    (later topic).broker.feed? place = some outcome.2 ∧
    (∀ id ∈ ids, (∀ number, id ≠ .broker number) →
      later = topics ∧ outcome.2 = feed ∧
        ∃ error, outcome.1 = .error error ∧
          (feed.isClosed = false → cancelled = false → error = .foreignAckId)) ∧
    ((∀ id ∈ ids, ∃ maker elsewhere, (topics maker).HasIssued elsewhere id) →
      feed.isClosed = false → cancelled = false → outcome.1 = .ok ()) ∧
    (∀ other elsewhere, (other, elsewhere) ≠ (topic, place) →
      (later other).broker.feed? elsewhere = (topics other).broker.feed? elsewhere) ∧
    ∀ held ∈ feed.messages, held ∉ outcome.2.messages →
      .broker held.1 ∈ ids ∧
      (∀ maker, ∀ envelope ∈ session.handedOut maker,
        envelope.ackId = some (.broker held.1) → envelope = issue (held.2.envelope, held.1)) ∧
      ((∀ id ∈ ids, session.HasIssued place id) →
        issue (held.2.envelope, held.1) ∈ session.handedOut place) := by
  intro topics session cancelled outcome later
  have known : (topics topic).broker.feed? place = some feed := present
  refine ⟨?reached, fun id member foreign => ?foreign, fun issued isOpen live => ?accepted,
    fun other elsewhere differ => Topics.feed?_step_settling_of_ne known differ,
    fun held inside gone => ?settled⟩
  case reached =>
    show (topics.step (topic, .settling isAck place context ids) topic).broker.feed? place = _
    rw [topics.step_settling_self, broker_step_settling known, feed?_setFeed_self known]
  case foreign =>
    rcases feed.settled_cases isAck cancelled ids with
      ⟨numbers, rfl, -⟩ | ⟨error, turnsAway, turnedAway⟩
    · obtain ⟨number, -, same⟩ := List.mem_map.mp member
      exact absurd same.symm (foreign number)
    · refine ⟨Topics.step_settling_of_turnsAway known turnsAway, congrArg Prod.snd turnedAway,
        error, congrArg Prod.fst turnedAway, fun isOpen live => ?_⟩
      exact turnsAway.unique (.foreign isOpen live member foreign)
  case accepted =>
    rcases feed.settled_cases isAck cancelled ids with
      ⟨numbers, -, done, -⟩ | ⟨error, turnsAway, -⟩
    · exact done
    · cases turnsAway with
      | closed closed => exact Bool.noConfusion (isOpen.symm.trans closed)
      | cancelled _ ended => exact Bool.noConfusion (live.symm.trans ended)
      | foreign _ _ member foreign =>
          obtain ⟨maker, elsewhere, issued⟩ := issued _ member
          obtain ⟨number, named⟩ := exists_number_of_issued visits issued
          exact absurd named (foreign number)
  case settled =>
    have named : .broker held.1 ∈ ids := by
      rcases feed.settled_cases isAck cancelled ids with
        ⟨numbers, rfl, -, kept⟩ | ⟨error, -, turnedAway⟩
      · by_contra unnamed
        refine gone (kept held inside fun number => unnamed (List.mem_map_of_mem number))
      · have unchanged : outcome.2 = feed := congrArg Prod.snd turnedAway
        exact absurd inside (unchanged ▸ gone)
    refine ⟨named, fun maker envelope => eq_of_token visits known inside, fun own => ?_⟩
    obtain ⟨envelope, member, token⟩ := own _ named
    exact eq_of_token visits known inside member token ▸ member

/-- Two feeds of one topic and a feed of another one, with a message each. Only the first feed has
handed its message out. -/
def neighbours : List (Nat × Move) :=
  [(0, .attach (some ⟨30⟩)), (0, .attach (some ⟨30⟩)), (1, .attach (some ⟨30⟩)),
    (0, .send 0 [{ body := [109] }]), (1, .send 0 [{ body := [110] }]),
    (0, .receive 0 0 1), (0, .turn 0 true), (0, .turn 0 true)]

theorem settled_as_tokens_name_of_neighbours :
    let topics := topicsOf neighbours
    let strange : List AckId := [.broker 0, .text "strange"]
    let feed : Feed :=
      { ackDeadline := some ⟨30⟩
        messages := [(0, { envelope := { body := [109] } })]
        arrivals := 1 }
    (topics 0).broker.feed? 1 = some feed ∧
      topics.step (0, .settling false 1 0 strange) = topics ∧
      (topics 0).HasIssued 0 (.broker 0) ∧ (feed.settled true false [.broker 0]).1 = .ok () ∧
      ∀ envelope ∈ (topics 0).handedOut 0, envelope.ackId = some (.broker 0) →
        envelope = { body := [109], ackId := some (.broker 0) } := by
  intro topics strange feed
  have present : (topics 0).broker.feed? 1 = some feed := by decide +kernel
  have live : (topics 0).cancelled.contains 0 = false := by decide +kernel
  have issued : (topics 0).HasIssued 0 (.broker 0) :=
    ⟨{ body := [109], ackId := some (.broker 0) }, by decide +kernel, rfl⟩
  obtain ⟨-, foreign, -⟩ := settled_as_tokens_name neighbours present false 0 strange
  obtain ⟨-, -, accepted, -, settled⟩ :=
    settled_as_tokens_name neighbours present true 0 [.broker 0]
  have done := accepted (by simpa using ⟨0, 0, issued⟩) rfl live
  obtain ⟨-, same, -⟩ :=
    settled (0, { envelope := { body := [109] } }) (.head _) (by decide +kernel)
  exact ⟨present, (foreign (.text "strange") (by decide) (by simp)).1, issued, live ▸ done, same 0⟩

/-- With the token of the first feed, the second feed of the topic and the feed of the other topic
forget messages that they have never handed out. -/
theorem forgotten_with_token_of_neighbour :
    let topics := topicsOf neighbours
    let ids : List AckId := [.broker 0]
    let beside := topics.step (0, .settling true 1 0 ids)
    let beyond := topics.step (1, .settling true 0 0 ids)
    (topics 0).handedOut 0 = [{ body := [109], ackId := some (.broker 0) }] ∧
      (topics 0).handedOut 1 = [] ∧ (topics 1).handedOut 0 = [] ∧
      ((topics 0).broker.feed? 1).map (fun feed => (feed.settled true false ids).1.isOk) =
        some true ∧
      ((topics 1).broker.feed? 0).map (fun feed => (feed.settled true false ids).1.isOk) =
        some true ∧
      ((topics 0).broker.feed? 1).map Feed.messages =
        some [(0, { envelope := { body := [109] } })] ∧
      ((beside 0).broker.feed? 1).map Feed.messages = some [] ∧
      ((topics 1).broker.feed? 0).map Feed.messages =
        some [(0, { envelope := { body := [110] } })] ∧
      ((beyond 1).broker.feed? 0).map Feed.messages = some [] := by
  decide +kernel

end Broker
end PubSub
