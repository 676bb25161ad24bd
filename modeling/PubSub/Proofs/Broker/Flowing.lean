import PubSub.Proofs.Broker.Change

/-!
# Messages flow through a feed in their order

A message waits in a feed until it is handed out for the first time. As long as nothing is refused
and no deadline passes, no message is handed out twice, and messages are handed out in the order of
their numbers: what was handed out, followed by what waits, is what was sent.
-/

namespace PubSub

namespace Feed

/-- The messages that are due whatever the time. -/
def waiting (messages : List (Nat × HeldMessage)) : List (Nat × HeldMessage) :=
  messages.filter fun held => held.2.deadline.isNone

/-- Whether no deadline of a message has passed. -/
def isInTime (feed : Feed) (now : Nat) : Bool :=
  feed.messages.all fun held => held.2.deadline.all fun deadline => decide (now < deadline)

variable {span : Duration} {now room : Nat} {messages : List (Nat × HeldMessage)}

/-- As long as no deadline has passed, what is due is what waits. -/
theorem isDue_eq_of_isInTime
    {feed : Feed}
    (inTime : feed.isInTime now = true)
    {held : Nat × HeldMessage}
    (member : held ∈ feed.messages) : held.2.isDue now = held.2.deadline.isNone := by
  have early := List.all_eq_true.mp inTime held member
  cases present : held.2.deadline with
  | none => simp [HeldMessage.isDue, present]
  | some deadline => simpa [HeldMessage.isDue, present] using early

/-- If only what waits is due, then a walk hands out the first messages that wait. -/
theorem taken_append_waiting
    (timely : ∀ held ∈ messages, held.2.isDue now = held.2.deadline.isNone) :
    (scan (some span) now room messages).taken ++
        (waiting (scan (some span) now room messages).left).map (handedOut (some span)) =
      (waiting messages).map (handedOut (some span)) := by
  induction messages generalizing room with
  | nil => rfl
  | cons held rest hypothesis =>
      rw [List.forall_mem_cons] at timely
      cases room with
      | zero => rfl
      | succ room =>
          cases due : held.2.isDue now with
          | true =>
              have waits : held.2.deadline.isNone = true := timely.1 ▸ due
              simpa [scan, due, waiting, waits, handedOut] using hypothesis timely.2
          | false =>
              have passed : held.2.deadline.isNone = false := timely.1 ▸ due
              simpa [scan, due, waiting, passed] using hypothesis timely.2

/-- What a walk leaves was there before, or was handed out by it. -/
theorem exists_taken_of_mem_left
    {held : Nat × HeldMessage}
    (member : held ∈ (scan (some span) now room messages).left) :
    held ∈ messages ∨
      ∃ envelope ∈ (scan (some span) now room messages).taken,
        envelope.ackId = some (.broker held.1) := by
  induction messages generalizing room with
  | nil => simp [scan] at member
  | cons first rest hypothesis =>
      cases room with
      | zero => exact .inl member
      | succ room =>
          cases due : first.2.isDue now with
          | true =>
              simp only [scan, due, if_true, List.mem_cons] at member ⊢
              rcases member with rfl | member
              · exact .inr ⟨_, .inl rfl, rfl⟩
              · rcases hypothesis member with same | ⟨envelope, taken, token⟩
                · exact .inl (.inr same)
                · exact .inr ⟨envelope, .inr taken, token⟩
          | false =>
              simp only [scan, due, Bool.false_eq_true, if_false, List.mem_cons] at member ⊢
              rcases member with rfl | member
              · exact .inl (.inl rfl)
              · exact (hypothesis member).imp_left .inr

/-- Tokens have their numbers, or one of them is not one of the broker. -/
theorem numbersOf_cases (ids : List AckId) :
    (∃ numbers, numbersOf ids = .ok numbers ∧ ids = numbers.map .broker) ∨
      numbersOf ids = .error .foreignAckId ∧ ∃ id ∈ ids, ∀ number, id ≠ .broker number := by
  induction ids with
  | nil => exact .inl ⟨[], rfl, rfl⟩
  | cons id rest hypothesis =>
      cases id with
      | broker number =>
          rcases hypothesis with ⟨numbers, known, rfl⟩ | ⟨unknown, id, member, foreign⟩
          · exact .inl ⟨number :: numbers, by rw [numbersOf, known], rfl⟩
          · exact .inr ⟨by rw [numbersOf, unknown], id, .tail _ member, foreign⟩
      | text | number | placeholder => exact .inr ⟨rfl, _, .head _, by simp⟩

end Feed

namespace Broker

/-! ## What was sent and handed out -/

/-- The messages that were sent. -/
def Record.envelopes : Record → List Envelope
  | .sent _ envelopes => envelopes
  | _ => []

/-- The messages that the feed at a place has handed out. -/
def Record.handedOut (place : Nat) : Record → List Envelope
  | .received other _ (.ok envelopes) => if other = place then envelopes else []
  | _ => []

/-- A message with its number for a token. -/
def issue (message : Envelope × Nat) : Envelope :=
  { message.1 with ackId := some (.broker message.2) }

namespace Session

/-- The messages that were sent, oldest first. -/
def sent (session : Session) : List Envelope := session.records.flatMap Record.envelopes

/-- The messages that were sent, each with its number for a token, oldest first. -/
def issued (session : Session) : List Envelope := session.sent.zipIdx.map issue

/-- The messages that the feed at a place has handed out, oldest first. -/
def handedOut (session : Session) (place : Nat) : List Envelope :=
  session.records.flatMap (Record.handedOut place)

/-- The messages that the feed at a place holds and has never handed out. -/
def undelivered (session : Session) (place : Nat) : List (Nat × HeldMessage) :=
  match session.broker.feed? place with
  | none => []
  | some feed => feed.messages.filter fun held =>
      (session.handedOut place).all fun envelope => envelope.ackId != some (.broker held.1)

/-- Whether no deadline of a message at a feed has passed. -/
def isInTime (session : Session) (place : Nat) : Bool :=
  (session.broker.feed? place).all fun feed => feed.isInTime session.now

variable {session after : Session} {place : Nat} {happened : List Record}

theorem sent_append (records : after.records = session.records ++ happened) :
    after.sent = session.sent ++ happened.flatMap Record.envelopes := by
  rw [sent, records, List.flatMap_append, ← sent]

theorem handedOut_append (records : after.records = session.records ++ happened) :
    after.handedOut place =
      session.handedOut place ++ happened.flatMap (Record.handedOut place) := by
  rw [handedOut, records, List.flatMap_append, ← handedOut]

theorem issued_append
    {envelopes : List Envelope}
    (more : after.sent = session.sent ++ envelopes) :
    after.issued = session.issued ++ (envelopes.zipIdx session.sent.length).map issue := by
  rw [issued, more, List.zipIdx_append, List.map_append, ← issued, Nat.zero_add]

/-- No two messages have the same token. -/
theorem nodup_issued (session : Session) : (session.issued.map Envelope.ackId).Nodup := by
  have tokens : session.issued.map Envelope.ackId =
      (List.range session.sent.length).map fun number => some (.broker number) := by
    rw [issued, List.map_map, List.range_eq_range', ← List.zipIdx_map_snd 0 session.sent,
      List.map_map]
    rfl
  rw [tokens]
  refine List.Nodup.map ?_ List.nodup_range
  intro one other same
  injection same with same
  injection same

end Session

/-! ## In their order -/

/-- The feed at a place has handed out the messages in the order in which they were sent; the others
wait. -/
structure Flowing (place : Nat) (span : Duration) (session : Session) (feed : Feed) : Prop where
  present : session.broker.feed? place = some feed
  deadlines : feed.ackDeadline = some span
  isOpen : feed.isClosed = false
  accepts : session.broker.isClosed = false
  live : session.cancelled = []
  calls : ∀ call ∈ session.calls, call.place = place
  numbered : session.broker.nextId = session.sent.length
  flow : session.handedOut place ++
    (Feed.waiting feed.messages).map (Feed.handedOut (some span)) = session.issued
  dated : ∀ held ∈ feed.messages, held.2.deadline ≠ none →
    ∃ envelope ∈ session.handedOut place, envelope.ackId = some (.broker held.1)

namespace Flowing

variable {place : Nat} {span : Duration} {session after : Session} {feed : Feed}

/-- What waits was never handed out. -/
theorem not_handedOut_of_waiting
    (flowing : Flowing place span session feed)
    {held : Nat × HeldMessage}
    (waits : held ∈ Feed.waiting feed.messages)
    {envelope : Envelope}
    (taken : envelope ∈ session.handedOut place) : envelope.ackId ≠ some (.broker held.1) := by
  have distinct := session.nodup_issued
  rw [← flowing.flow, List.map_append, List.nodup_append] at distinct
  refine distinct.2.2 _ (List.mem_map_of_mem taken) _ ?_
  exact List.mem_map_of_mem (List.mem_map_of_mem waits)

/-- The messages that were never handed out are those that wait. -/
theorem undelivered_eq (flowing : Flowing place span session feed) :
    session.undelivered place = Feed.waiting feed.messages := by
  rw [Session.undelivered, flowing.present]
  refine List.filter_congr fun held member => ?_
  rw [Bool.eq_iff_iff, List.all_eq_true, Option.isNone_iff_eq_none]
  constructor
  · intro never
    by_contra dated
    obtain ⟨envelope, taken, token⟩ := flowing.dated held member dated
    exact absurd token (by simpa using never envelope taken)
  · intro waits envelope taken
    have waiting : held ∈ Feed.waiting feed.messages :=
      List.mem_filter.mpr ⟨member, Option.isNone_iff_eq_none.mpr waits⟩
    simpa using flowing.not_handedOut_of_waiting waiting taken

/-- A new feed of a new broker. -/
theorem attached (span : Duration) :
    Flowing 0 span (sessionOf [.attach (some span)]) { ackDeadline := some span } :=
  ⟨rfl, rfl, rfl, rfl, rfl, by simp [sessionOf, Session.run, Session.step], rfl, rfl, by simp⟩

/-- Nothing has happened to the feed. -/
theorem congr
    (flowing : Flowing place span session feed)
    (broker : after.broker = session.broker)
    (cancelled : after.cancelled = session.cancelled)
    (calls : ∀ call ∈ after.calls, call.place = place)
    (records : after.records = session.records) : Flowing place span after feed where
  present := broker ▸ flowing.present
  deadlines := flowing.deadlines
  isOpen := flowing.isOpen
  accepts := broker ▸ flowing.accepts
  live := cancelled ▸ flowing.live
  calls := calls
  numbered := by rw [broker, Session.sent, records]; exact flowing.numbered
  flow := by
    rw [Session.handedOut, Session.issued, Session.sent, records]
    exact flowing.flow
  dated := by
    rw [Session.handedOut, records]
    exact flowing.dated

/-- What is added to a feed waits. -/
theorem map_handedOut_waiting_add (first : Nat) (envelopes : List Envelope) :
    (Feed.waiting (feed.add first envelopes).messages).map (Feed.handedOut (some span)) =
      (Feed.waiting feed.messages).map (Feed.handedOut (some span)) ++
        (envelopes.zipIdx first).map issue := by
  rw [Feed.add, Feed.waiting, List.filter_append, List.map_append, ← Feed.waiting]
  refine congrArg _ ?_
  rw [List.filter_eq_self.mpr, List.map_map]
  · rfl
  · intro held member
    obtain ⟨message, -, rfl⟩ := List.mem_map.mp member
    rfl

/-- Messages are sent to the feed, where they wait. -/
theorem delivered
    (flowing : Flowing place span session feed)
    (envelopes : List Envelope)
    (broker : after.broker = session.broker.deliver envelopes)
    (cancelled : after.cancelled = session.cancelled)
    (calls : after.calls = session.calls)
    (records : after.records =
      session.records ++ [.sent session.broker.nextId envelopes]) :
    Flowing place span after (feed.add session.broker.nextId envelopes) where
  present := by
    have here : session.broker.feeds[place]? = some feed := flowing.present
    simp [broker, deliver, feed?, here, flowing.isOpen]
  deadlines := flowing.deadlines
  isOpen := flowing.isOpen
  accepts := by rw [broker]; exact flowing.accepts
  live := cancelled ▸ flowing.live
  calls := calls ▸ flowing.calls
  numbered := by
    rw [Session.sent_append records, broker]
    simp [deliver, Record.envelopes, flowing.numbered]
  flow := by
    have more : after.sent = session.sent ++ envelopes := by
      simpa [Record.envelopes] using Session.sent_append records
    rw [Session.issued_append more, Session.handedOut_append records, map_handedOut_waiting_add,
      ← flowing.flow, flowing.numbered]
    simp [Record.handedOut]
  dated held member dated := by
    rw [Session.handedOut_append records]
    rcases List.mem_append.mp member with old | new
    · obtain ⟨envelope, taken, token⟩ := flowing.dated held old dated
      exact ⟨envelope, List.mem_append_left _ taken, token⟩
    · obtain ⟨message, -, rfl⟩ := List.mem_map.mp new
      exact absurd rfl dated

/-- Messages that were handed out are forgotten. -/
theorem forgot
    (flowing : Flowing place span session feed)
    {numbers : List Nat}
    (known : ∀ number ∈ numbers, ∃ envelope ∈ session.handedOut place,
      envelope.ackId = some (.broker number))
    (broker : after.broker = session.broker.setFeed place (feed.forget numbers))
    (cancelled : after.cancelled = session.cancelled)
    (calls : after.calls = session.calls)
    (records : after.records = session.records ++ [.acknowledged place numbers]) :
    Flowing place span after (feed.forget numbers) where
  present := by rw [broker]; exact feed?_setFeed_self flowing.present _
  deadlines := flowing.deadlines
  isOpen := flowing.isOpen
  accepts := by rw [broker]; exact flowing.accepts
  live := cancelled ▸ flowing.live
  calls := calls ▸ flowing.calls
  numbered := by
    rw [Session.sent_append records, broker]
    simpa [Record.envelopes, setFeed] using flowing.numbered
  flow := by
    have waiting : Feed.waiting (feed.forget numbers).messages = Feed.waiting feed.messages := by
      rw [Feed.waiting, Feed.forget, List.filter_filter, Feed.waiting]
      refine List.filter_congr fun held member => ?_
      rw [Bool.and_eq_left_iff_imp]
      intro waits
      rw [decide_eq_true_eq]
      intro named
      obtain ⟨envelope, taken, token⟩ := known held.1 named
      exact flowing.not_handedOut_of_waiting (List.mem_filter.mpr ⟨member, waits⟩) taken token
    have same : after.sent = session.sent := by
      simpa [Record.envelopes] using Session.sent_append records
    rw [waiting, Session.issued, same, ← Session.issued, ← flowing.flow,
      Session.handedOut_append records]
    simp [Record.handedOut]
  dated held member dated := by
    rw [Session.handedOut_append records]
    obtain ⟨envelope, taken, token⟩ := flowing.dated held (List.mem_filter.mp member).1 dated
    exact ⟨envelope, List.mem_append_left _ taken, token⟩

/-- A look at the feed, before any deadline has passed, hands out the first messages that wait. -/
theorem looked
    (flowing : Flowing place span session feed)
    (inTime : feed.isInTime session.now = true)
    (requested : Nat)
    (broker : after.broker = session.broker.setFeed place
      { feed with messages := (feed.look session.now requested).left })
    (cancelled : after.cancelled = session.cancelled)
    (calls : ∀ call ∈ after.calls, call.place = place)
    (records : after.records = session.records ++
      [.received place session.now (.ok (feed.look session.now requested).taken)]) :
    Flowing place span after
      { feed with messages := (feed.look session.now requested).left } := by
  have same : after.sent = session.sent := by
    simpa [Record.envelopes] using Session.sent_append records
  have taken : after.handedOut place =
      session.handedOut place ++ (feed.look session.now requested).taken := by
    rw [Session.handedOut_append records]
    simp [Record.handedOut]
  refine ⟨?present, flowing.deadlines, flowing.isOpen, ?accepts, cancelled ▸ flowing.live, calls,
    ?numbered, ?flow, fun held left dated => ?dated⟩
  case present => rw [broker]; exact feed?_setFeed_self flowing.present _
  case accepts => rw [broker]; exact flowing.accepts
  case numbered => rw [same, broker]; exact flowing.numbered
  case flow =>
    rw [Session.issued, same, ← Session.issued, ← flowing.flow, taken, List.append_assoc]
    refine congrArg _ ?_
    rw [Feed.look, flowing.deadlines]
    exact Feed.taken_append_waiting fun held => Feed.isDue_eq_of_isInTime inTime
  case dated =>
    rw [taken]
    simp only [Feed.look, flowing.deadlines] at left ⊢
    rcases Feed.exists_taken_of_mem_left left with old | ⟨envelope, new, token⟩
    · obtain ⟨envelope, known, token⟩ := flowing.dated held old dated
      exact ⟨envelope, List.mem_append_left _ known, token⟩
    · exact ⟨envelope, List.mem_append_right _ new, token⟩

/-! ## Moves -/

/-- Nothing keeps the broker from sending messages. -/
theorem send
    (flowing : Flowing place span session feed)
    (context : Nat)
    (envelopes : List Envelope) :
    (session.broker.send (session.cancelled.contains context) envelopes).1 = .ok () ∧
      (session.step (.send context envelopes)).records =
        session.records ++ [.sent session.broker.nextId envelopes] ∧
      Flowing place span (session.step (.send context envelopes))
        (feed.add session.broker.nextId envelopes) := by
  have accepted : session.broker.send (session.cancelled.contains context) envelopes =
      (.ok (), session.broker.deliver envelopes) := by
    simp [Broker.send, deliver, flowing.accepts, flowing.live]
  rw [Session.step, accepted]
  exact ⟨rfl, rfl, flowing.delivered envelopes rfl rfl rfl rfl⟩

/-- Nothing keeps the feed from forgetting messages that it has handed out. -/
theorem acknowledge
    (flowing : Flowing place span session feed)
    (context : Nat)
    {ids : List AckId}
    (known : ∀ id ∈ ids, ∃ envelope ∈ session.handedOut place, envelope.ackId = some id) :
    ∃ numbers, feed.permitted (session.cancelled.contains context) ids = .ok numbers ∧
      (session.step (.acknowledge place context ids)).records =
        session.records ++ [.acknowledged place numbers] ∧
      Flowing place span (session.step (.acknowledge place context ids)) (feed.forget numbers) := by
  have issued : ∀ id ∈ ids, ∃ number, id = .broker number := by
    intro id member
    obtain ⟨envelope, taken, token⟩ := known id member
    have isIssued : envelope ∈ session.issued := flowing.flow ▸ List.mem_append_left _ taken
    obtain ⟨message, -, rfl⟩ := List.mem_map.mp isIssued
    exact ⟨message.2, (Option.some.inj token).symm⟩
  obtain ⟨numbers, named, rfl⟩ :
      ∃ numbers, Feed.numbersOf ids = .ok numbers ∧ ids = numbers.map .broker := by
    rcases Feed.numbersOf_cases ids with tokens | ⟨-, id, member, foreign⟩
    · exact tokens
    · obtain ⟨number, token⟩ := issued id member
      exact absurd token (foreign number)
  have permitted : feed.permitted (session.cancelled.contains context) (numbers.map .broker) =
      .ok numbers := by
    simp [Feed.permitted, Feed.checkOpen, flowing.isOpen, flowing.live, named]
  have stepped : session.step (.acknowledge place context (numbers.map .broker)) =
      { session with
        broker := session.broker.setFeed place (feed.forget numbers)
        records := session.records ++ [.acknowledged place numbers] } := by
    simp only [Session.step, Session.settle, flowing.present, Feed.acknowledge, permitted]
  rw [stepped]
  refine ⟨numbers, permitted, rfl, flowing.forgot (fun number member => ?_) rfl rfl rfl rfl⟩
  exact known _ (List.mem_map_of_mem member)

theorem receive
    (flowing : Flowing place span session feed)
    (context requested : Nat) :
    Flowing place span (session.step (.receive place context requested)) feed :=
  flowing.congr rfl rfl (List.forall_mem_cons.mpr ⟨rfl, flowing.calls⟩) rfl

theorem elapse (flowing : Flowing place span session feed) (nanos : Nat) :
    Flowing place span (session.step (.elapse nanos)) feed :=
  flowing.congr rfl rfl flowing.calls rfl

/-- A call that takes a turn, before any deadline has passed, goes on, or is answered with the first
messages that wait. -/
theorem turn
    (flowing : Flowing place span session feed)
    (inTime : feed.isInTime session.now = true)
    (index : Nat)
    (contextFirst : Bool) :
    let after := session.step (.turn index contextFirst)
    (after.records = session.records ∧ Flowing place span after feed) ∨
      ∃ envelopes later,
        after.records = session.records ++ [.received place session.now (.ok envelopes)] ∧
          Flowing place span after later := by
  cases here : session.calls[index]? with
  | none =>
      simp only [Session.step, here]
      exact .inl ⟨trivial, flowing⟩
  | some call =>
      obtain rfl : call.place = place := flowing.calls call (List.mem_of_getElem? here)
      have others : ∀ other ∈ session.calls.eraseIdx index, other.place = call.place :=
        fun other member => flowing.calls other (List.mem_of_mem_eraseIdx member)
      have goesOn (receiver : FeedReceiver) :
          let after : Session :=
            { session with
              calls := { call with receiver } :: session.calls.eraseIdx index
              records := session.records ++ [] }
          after.records = session.records ∧ Flowing call.place span after feed :=
        ⟨List.append_nil _, flowing.congr rfl rfl (List.forall_mem_cons.mpr ⟨rfl, others⟩)
          (List.append_nil _)⟩
      have live : session.cancelled.contains call.context = false := by simp [flowing.live]
      have same := setFeed_self flowing.present
      simp only [Session.step, here, flowing.present, Session.turn, FeedReceiver.step, live]
      cases stage : call.receiver.stage with
      | opening =>
          simp only [Feed.checkOpen, flowing.isOpen, Bool.false_eq_true, if_false, same]
          exact .inl (goesOn _)
      | looking seen =>
          simp only [Session.moment]
          by_cases found : (feed.look session.now call.receiver.requested).taken = []
          · obtain ⟨-, walk⟩ := Feed.look_of_taken_eq_nil found
            simp only [walk, same, List.isEmpty_nil, if_true]
            exact .inl (goesOn _)
          · simp only [List.isEmpty_eq_false_iff.mpr found, Bool.false_eq_true, if_false]
            exact .inr ⟨_, _, rfl, flowing.looked inTime _ rfl rfl others rfl⟩
      | waiting watch =>
          simp only [FeedReceiver.onWatch, flowing.isOpen, Bool.false_and, Bool.false_eq_true,
            if_false, same]
          split
          next => exact .inl (goesOn _)
          next => exact .inl (goesOn _)

end Flowing

end Broker
end PubSub
