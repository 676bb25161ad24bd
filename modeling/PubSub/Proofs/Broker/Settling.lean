import PubSub.Proofs.Broker.Flowing
import PubSub.Proofs.Broker.Keeping

/-!
# Calls of the broker take effect for all or for nothing

A call that acknowledges or refuses messages is turned away if the feed is closed, the context is
cancelled or one of the tokens, wherever it stands in the list, is not one of the broker. Then
nothing changes. Otherwise it settles the messages of all tokens, as if they were named one after
the other, and touches no other message. Sending is of the same kind: either the broker stays as it
is, or every open feed gets all messages, in their order and under the same new numbers.
-/

namespace PubSub
namespace Feed

/-- Why a call that settles the messages of tokens is turned away. -/
inductive TurnsAway (feed : Feed) (cancelled : Bool) (ids : List AckId) : BrokerError → Prop
  | closed (closed : feed.isClosed = true) : TurnsAway feed cancelled ids .subscriptionClosed
  | cancelled (isOpen : feed.isClosed = false) (ended : cancelled = true) :
      TurnsAway feed cancelled ids .canceled
  | foreign
      (isOpen : feed.isClosed = false)
      (live : cancelled = false)
      {id : AckId}
      (member : id ∈ ids)
      (foreign : ∀ number, id ≠ .broker number) :
      TurnsAway feed cancelled ids .foreignAckId

variable {feed : Feed} {cancelled : Bool} {ids : List AckId} {numbers : List Nat}
  {error : BrokerError}

/-- A call is permitted and all its tokens have numbers, or it is turned away. -/
theorem permitted_cases (feed : Feed) (cancelled : Bool) (ids : List AckId) :
    (∃ numbers, feed.permitted cancelled ids = .ok numbers ∧ ids = numbers.map .broker ∧
        feed.isClosed = false ∧ cancelled = false) ∨
      ∃ error, feed.permitted cancelled ids = .error error ∧
        feed.TurnsAway cancelled ids error := by
  unfold permitted checkOpen
  cases closed : feed.isClosed with
  | true => exact .inr ⟨_, rfl, .closed closed⟩
  | false =>
      cases ended : cancelled with
      | true => exact .inr ⟨_, rfl, .cancelled closed rfl⟩
      | false =>
          rcases numbersOf_cases ids with ⟨numbers, known, named⟩ | ⟨unknown, id, member, foreign⟩
          · exact .inl ⟨numbers, known, named, rfl, rfl⟩
          · exact .inr ⟨_, unknown, .foreign closed rfl member foreign⟩

/-- A call is turned away for one reason only. -/
theorem TurnsAway.unique
    {other : BrokerError}
    (turnsAway : feed.TurnsAway cancelled ids error)
    (again : feed.TurnsAway cancelled ids other) : error = other := by
  cases turnsAway <;> cases again <;> first | rfl | simp_all

theorem permitted_eq_error_iff :
    feed.permitted cancelled ids = .error error ↔ feed.TurnsAway cancelled ids error := by
  rcases permitted_cases feed cancelled ids with
    ⟨numbers, allowed, rfl, isOpen, live⟩ | ⟨other, refused, turnsAway⟩
  · rw [allowed]
    refine iff_of_false (fun same => by cases same) fun turnsAway => ?_
    cases turnsAway with
    | closed closed => exact Bool.noConfusion (isOpen.symm.trans closed)
    | cancelled _ ended => exact Bool.noConfusion (live.symm.trans ended)
    | foreign _ _ member foreign =>
        obtain ⟨number, -, rfl⟩ := List.mem_map.mp member
        exact foreign number rfl
  · rw [refused]
    constructor
    · intro same
      exact Except.error.inj same ▸ turnsAway
    · intro again
      rw [turnsAway.unique again]

/-- The outcome of a call that settles messages: it is turned away and leaves the feed as it is, or
nothing turns it away and it takes effect. -/
inductive Settles (feed : Feed) (cancelled : Bool) (ids : List AckId) (effect : Feed) :
    Except BrokerError Unit × Feed → Prop
  | turnedAway {error : BrokerError} (turnsAway : feed.TurnsAway cancelled ids error) :
      Settles feed cancelled ids effect (.error error, feed)
  | settled (free : ∀ error, ¬feed.TurnsAway cancelled ids error) :
      Settles feed cancelled ids effect (.ok (), effect)

/-- A call of any kind that looks at all tokens before it settles anything. -/
theorem settles_of_permitted
    {operation : Except BrokerError Unit × Feed}
    {whole : Feed}
    (effect : List Nat → Feed)
    (carried : operation =
      match feed.permitted cancelled ids with
      | .error error => (.error error, feed)
      | .ok numbers => (.ok (), effect numbers))
    (same : ∀ numbers, ids = numbers.map .broker → effect numbers = whole) :
    feed.Settles cancelled ids whole operation := by
  rcases permitted_cases feed cancelled ids with
    ⟨numbers, allowed, named, -⟩ | ⟨error, refused, turnsAway⟩
  · have done : operation = (.ok (), effect numbers) := by rw [carried, allowed]
    rw [done, same numbers named]
    refine .settled fun error turnsAway => ?_
    cases allowed.symm.trans (permitted_eq_error_iff.mpr turnsAway)
  · have unchanged : operation = (.error error, feed) := by rw [carried, refused]
    rw [unchanged]
    exact .turnedAway turnsAway

/-- Acknowledging forgets exactly the messages that are named. -/
theorem settles_acknowledge (feed : Feed) (cancelled : Bool) (ids : List AckId) :
    feed.Settles cancelled ids
      { feed with messages := feed.messages.filter fun held => .broker held.1 ∉ ids }
      (feed.acknowledge cancelled ids) := by
  refine settles_of_permitted feed.forget rfl ?_
  rintro numbers rfl
  simp [forget]

/-- Refusing makes exactly the messages due that are named. -/
theorem settles_refuse (feed : Feed) (cancelled : Bool) (ids : List AckId) :
    feed.Settles cancelled ids
      { feed with
        messages := feed.messages.map fun held =>
          if .broker held.1 ∈ ids then (held.1, { held.2 with deadline := none }) else held
        arrivals := feed.arrivals + 1 }
      (feed.refuse cancelled ids) := by
  refine settles_of_permitted feed.release rfl ?_
  rintro numbers rfl
  simp [release]

/-! ## One after the other -/

theorem forget_cons (number : Nat) (numbers : List Nat) :
    feed.forget (number :: numbers) = (feed.forget [number]).forget numbers := by
  simp only [forget, List.filter_filter]
  refine congrArg (fun messages => { feed with messages }) (List.filter_congr fun held _ => ?_)
  simp [not_or, Bool.and_comm]

theorem messages_release_cons (number : Nat) (numbers : List Nat) :
    (feed.release (number :: numbers)).messages =
      ((feed.release [number]).release numbers).messages := by
  simp only [release, List.map_map]
  refine List.map_congr_left fun held _ => ?_
  by_cases here : held.1 = number <;> by_cases later : held.1 ∈ numbers <;>
    simp [here, later]

theorem numbersOf_map_broker (numbers : List Nat) :
    numbersOf (numbers.map .broker) = .ok numbers := by
  induction numbers with
  | nil => rfl
  | cons number rest hypothesis => rw [List.map_cons, numbersOf, hypothesis]

theorem permitted_map_broker (isOpen : feed.isClosed = false) (numbers : List Nat) :
    feed.permitted false (numbers.map .broker) = .ok numbers := by
  rw [permitted, checkOpen, isOpen, numbersOf_map_broker]
  rfl

/-- Forgetting messages is forgetting them one after the other. -/
theorem foldl_acknowledge (isOpen : feed.isClosed = false) (numbers : List Nat) :
    (numbers.map .broker).foldl (fun feed id => (feed.acknowledge false [id]).2) feed =
      feed.forget numbers := by
  induction numbers generalizing feed with
  | nil => simp [forget]
  | cons number rest hypothesis =>
      have first : feed.acknowledge false [.broker number] = (.ok (), feed.forget [number]) := by
        rw [acknowledge, ← List.map_singleton, permitted_map_broker isOpen]
      rw [List.map_cons, List.foldl_cons, first, forget_cons number rest]
      exact hypothesis isOpen

/-- Making messages due is making them due one after the other. -/
theorem foldl_refuse (isOpen : feed.isClosed = false) (numbers : List Nat) :
    ((numbers.map .broker).foldl (fun feed id => (feed.refuse false [id]).2) feed).messages =
      (feed.release numbers).messages := by
  induction numbers generalizing feed with
  | nil => simp [release]
  | cons number rest hypothesis =>
      have first : feed.refuse false [.broker number] = (.ok (), feed.release [number]) := by
        rw [refuse, ← List.map_singleton, permitted_map_broker isOpen]
      rw [List.map_cons, List.foldl_cons, first, messages_release_cons number rest]
      exact hypothesis isOpen

/-- A call that nothing turns away is as good as one call for each token. -/
theorem foldl_of_free (free : ∀ error, ¬feed.TurnsAway cancelled ids error) :
    ids.foldl (fun feed id => (feed.acknowledge cancelled [id]).2) feed =
        (feed.acknowledge cancelled ids).2 ∧
      (ids.foldl (fun feed id => (feed.refuse cancelled [id]).2) feed).messages =
        (feed.refuse cancelled ids).2.messages := by
  rcases permitted_cases feed cancelled ids with
    ⟨numbers, allowed, rfl, isOpen, rfl⟩ | ⟨error, -, turnsAway⟩
  · rw [acknowledge, refuse, allowed]
    exact ⟨foldl_acknowledge isOpen numbers, foldl_refuse isOpen numbers⟩
  · exact absurd turnsAway (free error)

/-! ## New messages -/

/-- Messages under consecutive numbers, without the tokens that the sender put on them. -/
def incoming (first : Nat) (envelopes : List Envelope) : List (Nat × Envelope) :=
  (envelopes.zipIdx first).map fun message => (message.2, { message.1 with ackId := none })

/-- A message as a feed holds it until it is handed out. -/
def fresh (message : Nat × Envelope) : Nat × HeldMessage := (message.1, { envelope := message.2 })

theorem messages_add (first : Nat) (envelopes : List Envelope) :
    (feed.add first envelopes).messages =
      feed.messages ++ (incoming first envelopes).map fresh := by
  rw [add, incoming, List.map_map]
  rfl

theorem keys_incoming (first : Nat) (envelopes : List Envelope) :
    (incoming first envelopes).map Prod.fst = List.range' first envelopes.length := by
  rw [incoming, List.map_map, ← List.zipIdx_map_snd first envelopes]
  rfl

theorem values_incoming (first : Nat) (envelopes : List Envelope) :
    (incoming first envelopes).map Prod.snd =
      envelopes.map fun envelope => { envelope with ackId := none } := by
  nth_rewrite 2 [← List.zipIdx_map_fst first envelopes]
  rw [incoming, List.map_map, List.map_map]
  rfl

end Feed

namespace Broker

variable {session : Session} {place context : Nat} {ids : List AckId} {feed : Feed}
  {error : BrokerError}

/-- In a session, a call that is turned away has no effect at all. -/
theorem step_of_turnsAway
    (present : session.broker.feed? place = some feed)
    (turnsAway : feed.TurnsAway (session.cancelled.contains context) ids error) :
    session.step (.acknowledge place context ids) = session ∧
      session.step (.refuse place context ids) = session := by
  have refused := Feed.permitted_eq_error_iff.mpr turnsAway
  have same := setFeed_self present
  constructor
  · simp only [Session.step, Session.settle, present, Feed.acknowledge, refused, same,
      List.append_nil]
  · simp only [Session.step, Session.settle, present, Feed.refuse, refused, same, List.append_nil]

theorem feed?_deliver (broker : Broker) (envelopes : List Envelope) (place : Nat) :
    (broker.deliver envelopes).feed? place =
      (broker.feed? place).map fun feed =>
        if feed.isClosed then feed else feed.add broker.nextId envelopes := by
  simp [deliver, feed?]

/-- The numbers that are given to the next messages are on no message yet. -/
theorem number_not_mem_of_le
    {moves : List Move}
    {number : Nat}
    (fresh : (sessionOf moves).broker.nextId ≤ number) :
    number ∉ (sessionOf moves).records.flatMap Record.numbers ∧
      ∀ place feed, (sessionOf moves).broker.feed? place = some feed →
        number ∉ feed.messages.map Prod.fst := by
  constructor
  · rw [numbers_eq_range, List.mem_range]
    exact Nat.not_lt.mpr fresh
  · intro place feed present member
    have issued := ((orderly moves place).numbered feed present).issued number member
    exact Nat.not_lt.mpr fresh issued

/-- A call that settles messages is turned away and changes nothing, or settles exactly the messages
that it names, as if they were named one after the other. Sending fails and changes nothing, or
every open feed gets all messages in their order, under the same new consecutive numbers. -/
theorem settled_entirely_or_not_at_all (moves : List Move) :
    let session := sessionOf moves
    let broker := session.broker
    (∀ (feed : Feed) (cancelled : Bool) (ids : List AckId),
      feed.Settles cancelled ids
        { feed with messages := feed.messages.filter fun held => .broker held.1 ∉ ids }
        (feed.acknowledge cancelled ids) ∧
      feed.Settles cancelled ids
        { feed with
          messages := feed.messages.map fun held =>
            if .broker held.1 ∈ ids then (held.1, { held.2 with deadline := none }) else held
          arrivals := feed.arrivals + 1 }
        (feed.refuse cancelled ids) ∧
      ((∀ error, ¬feed.TurnsAway cancelled ids error) →
        ids.foldl (fun feed id => (feed.acknowledge cancelled [id]).2) feed =
          (feed.acknowledge cancelled ids).2 ∧
        (ids.foldl (fun feed id => (feed.refuse cancelled [id]).2) feed).messages =
          (feed.refuse cancelled ids).2.messages)) ∧
    (∀ place context ids feed error, broker.feed? place = some feed →
      feed.TurnsAway (session.cancelled.contains context) ids error →
        session.step (.acknowledge place context ids) = session ∧
          session.step (.refuse place context ids) = session) ∧
    ∀ (cancelled : Bool) (envelopes : List Envelope),
      let outcome := broker.send cancelled envelopes
      (broker.isClosed = true → outcome = (.error .topicClosed, broker)) ∧
      (broker.isClosed = false → cancelled = true → outcome = (.error .canceled, broker)) ∧
      (broker.isClosed = false → cancelled = false →
        outcome.1 = .ok () ∧ outcome.2.isClosed = false ∧
        outcome.2.feeds.length = broker.feeds.length ∧
        outcome.2.nextId = broker.nextId + envelopes.length ∧
        ∃ added : List (Nat × Envelope),
          added.map Prod.fst = List.range' broker.nextId envelopes.length ∧
          added.map Prod.snd = envelopes.map (fun envelope => { envelope with ackId := none }) ∧
          (∀ number ∈ added.map Prod.fst,
            number ∉ session.records.flatMap Record.numbers ∧
              ∀ place feed, broker.feed? place = some feed →
                number ∉ feed.messages.map Prod.fst) ∧
          ∀ place feed, broker.feed? place = some feed →
            outcome.2.feed? place =
              some (if feed.isClosed then feed
                else
                  { feed with
                    messages := feed.messages ++ added.map Feed.fresh
                    arrivals := feed.arrivals + 1 })) := by
  intro session broker
  refine ⟨fun feed cancelled ids => ⟨feed.settles_acknowledge cancelled ids,
    feed.settles_refuse cancelled ids, Feed.foldl_of_free⟩,
    fun place context ids feed error present turnsAway => step_of_turnsAway present turnsAway,
    fun cancelled envelopes => ⟨fun closed => ?closed, fun isOpen ended => ?cancelled,
      fun isOpen live => ?delivered⟩⟩
  case closed => simp [send, closed]
  case cancelled => simp [send, isOpen, ended]
  case delivered =>
    have sent : broker.send cancelled envelopes = (.ok (), broker.deliver envelopes) := by
      simp [send, deliver, isOpen, live]
    rw [sent]
    refine ⟨rfl, isOpen, List.length_map .., rfl, Feed.incoming broker.nextId envelopes,
      Feed.keys_incoming .., Feed.values_incoming .., fun number member => ?_,
      fun place feed present => ?_⟩
    · rw [Feed.keys_incoming, List.mem_range'_1] at member
      exact number_not_mem_of_le member.1
    · rw [feed?_deliver, present, Option.map_some, ← Feed.messages_add]
      rfl

/-- A token of somebody else at the end of the list keeps the first message from being settled; the
next message is sent under the next number. -/
theorem settled_entirely_or_not_at_all_of_foreign_token :
    let moves : List Move := [.attach (some ⟨30⟩), .send 0 [{ body := [104, 105] }]]
    let session := sessionOf moves
    let ids : List AckId := [.broker 0, .text "theirs"]
    session.step (.acknowledge 0 0 ids) = session ∧ session.step (.refuse 0 0 ids) = session ∧
      (session.broker.send false [{ body := [33] }]).1 = .ok () ∧
      (session.broker.send false [{ body := [33] }]).2.nextId = 2 := by
  intro moves session ids
  obtain ⟨-, unchanged, sending⟩ := settled_entirely_or_not_at_all moves
  obtain ⟨-, -, delivered⟩ := sending false [{ body := [33] }]
  obtain ⟨done, -, -, next, -⟩ := delivered (by decide +kernel) rfl
  let feed : Feed :=
    { ackDeadline := some ⟨30⟩
      messages := [(0, { envelope := { body := [104, 105] } })]
      arrivals := 1 }
  have present : session.broker.feed? 0 = some feed := by decide +kernel
  have turnsAway : feed.TurnsAway (session.cancelled.contains 0) ids .foreignAckId :=
    .foreign rfl (by decide +kernel) (List.mem_cons_of_mem _ (.head _)) (by simp)
  obtain ⟨acknowledged, refused⟩ := unchanged 0 0 ids feed .foreignAckId present turnsAway
  exact ⟨acknowledged, refused, done, next.trans (by decide +kernel)⟩

end Broker
end PubSub
