import PubSub.Proofs.Broker.Keeping

/-!
# Delivery at least once

The main statement of this module says what a feed with deadlines promises while it is open:
every message that was sent since it was attached is held under a number of its own until that
number is acknowledged; a message that was handed out is not handed out again within the deadline
unless it was refused, and never after it was acknowledged; and from then on it is due, so that a
receiver whose look reaches it returns it.
-/

namespace PubSub

/-- Whether a look at a feed reaches a message before as many are found as were asked for. -/
def Feed.Reaches (feed : Feed) (now requested number : Nat) (held : HeldMessage) : Prop :=
  ∃ before after, feed.messages = before ++ (number, held) :: after ∧
    before.countP (fun other => other.2.isDue now) < Feed.batchLimit requested

namespace Broker

variable {session : Session} {index : Nat} {call : Call} {feed : Feed}

/-- A call with a live context on an open feed goes on to look, and changes nothing else. -/
theorem step_turn_of_opening
    (here : session.calls[index]? = some call)
    (present : session.broker.feed? call.place = some feed)
    (opening : call.receiver.stage = .opening)
    (isOpen : feed.isClosed = false)
    (live : call.context ∉ session.cancelled)
    (contextFirst : Bool) :
    session.step (.turn index contextFirst) =
      { session with
        calls :=
          { call with receiver := { call.receiver with stage := .looking feed.arrivals } } ::
            session.calls.eraseIdx index } := by
  have permitted : feed.checkOpen (session.cancelled.contains call.context) = .ok () := by
    simp [Feed.checkOpen, isOpen, live]
  simp only [Session.step, here, present, Session.turn, FeedReceiver.step, opening, permitted,
    setFeed_self present, answerRecords, List.append_nil]
  rfl

/-- A call that looks at a feed returns what it finds. -/
theorem records_turn_of_looking
    {seen : Nat}
    (here : session.calls[index]? = some call)
    (present : session.broker.feed? call.place = some feed)
    (looking : call.receiver.stage = .looking seen)
    (found : (feed.look session.now call.receiver.requested).taken ≠ [])
    (contextFirst : Bool) :
    (session.step (.turn index contextFirst)).records =
      session.records ++
        [.received call.place session.now
          (.ok (feed.look session.now call.receiver.requested).taken)] := by
  simp only [Session.step, here, present, Session.turn, FeedReceiver.step, looking, Session.moment,
    List.isEmpty_eq_false_iff.mpr found, Bool.false_eq_true, if_false, answerRecords]

/-- A call with a live context on an open feed returns what it finds in its next two turns. -/
theorem records_turns_of_opening
    (here : session.calls[index]? = some call)
    (present : session.broker.feed? call.place = some feed)
    (opening : call.receiver.stage = .opening)
    (isOpen : feed.isClosed = false)
    (live : call.context ∉ session.cancelled)
    (found : (feed.look session.now call.receiver.requested).taken ≠ [])
    (contextFirst : Bool) :
    (session.run [.turn index contextFirst, .turn 0 contextFirst]).records =
      session.records ++
        [.received call.place session.now
          (.ok (feed.look session.now call.receiver.requested).taken)] := by
  let opened : Session :=
    { session with
      calls :=
        { call with receiver := { call.receiver with stage := .looking feed.arrivals } } ::
          session.calls.eraseIdx index }
  have first : session.step (.turn index contextFirst) = opened :=
    step_turn_of_opening here present opening isOpen live contextFirst
  have head : opened.calls[0]? = some _ := rfl
  have unchanged : opened.broker.feed? call.place = some feed := present
  simp only [Session.run, List.foldl_cons, List.foldl_nil, first]
  exact records_turn_of_looking head unchanged rfl found contextFirst

/-- A look hands out a due message that it reaches. -/
theorem mem_taken_of_reached
    {now requested number : Nat}
    {held : HeldMessage}
    {span : Duration}
    (deadlines : feed.ackDeadline = some span)
    (due : held.isDue now = true)
    (reached : feed.Reaches now requested number held) :
    { held.envelope with ackId := some (.broker number) } ∈ (feed.look now requested).taken := by
  obtain ⟨before, after, split, room⟩ := reached
  rw [Feed.look, Feed.taken_scan, deadlines]
  exact List.mem_map.mpr ⟨(number, held), Feed.mem_ripe_of_reached split due room, rfl⟩

/-- An open feed with deadlines holds every message that was sent to it until it is acknowledged,
and hands it out again only after the deadline of its last delivery or a refusal. From then on it is
due, and every receiver with a live context whose look reaches it returns it. -/
theorem kept_until_acknowledged
    {moves : List Move}
    {place : Nat}
    {span : Duration}
    {feed : Feed}
    (present : (sessionOf moves).broker.feed? place = some feed)
    (deadlines : feed.ackDeadline = some span)
    (isOpen : feed.isClosed = false) :
    let session := sessionOf moves
    session.records.flatMap Record.numbers = List.range session.broker.nextId ∧
    (feed.messages.map Prod.fst).Nodup ∧
    (∀ first envelopes, .sent first envelopes ∈ since place session.records →
      ∀ (offset : Nat) (envelope : Envelope), envelopes[offset]? = some envelope →
        .arrived envelope ∈ session.history place (first + offset)) ∧
    ∀ number, let history := session.history place number
      (∀ earlier envelope later, history = earlier ++ .arrived envelope :: later →
        if .acknowledged ∈ later then number ∉ feed.messages.map Prod.fst
        else ∃ deadline,
          (number, { envelope := { envelope with ackId := none }, deadline }) ∈ feed.messages) ∧
      (∀ earlier time envelope later, history = earlier ++ .handedOut time envelope :: later →
        ∃ original, .arrived original ∈ earlier ∧
          envelope = { original with ackId := some (.broker number) }) ∧
      (∀ earlier time envelope between again other later,
        history =
            earlier ++ .handedOut time envelope :: between ++ .handedOut again other :: later →
          .refused ∈ between ∨ time + span.nanos ≤ again) ∧
      (∀ earlier envelope between later,
        history = earlier ++ .arrived envelope :: between ++ .acknowledged :: later →
          ∀ occurrence ∈ later, occurrence.isHandOut = false) ∧
      ∀ held, (number, held) ∈ feed.messages →
        (held.isDue session.now = true ↔
          ∀ earlier time envelope later, history = earlier ++ .handedOut time envelope :: later →
            (∀ occurrence ∈ later, occurrence.isHandOut = false) →
            .refused ∈ later ∨ time + span.nanos ≤ session.now) ∧
        ∀ (index : Nat) (call : Call), session.calls[index]? = some call → call.place = place →
          held.isDue session.now = true →
          feed.Reaches session.now call.receiver.requested number held →
          ∃ envelopes, { held.envelope with ackId := some (.broker number) } ∈ envelopes ∧
            (∀ seen, call.receiver.stage = .looking seen → ∀ contextFirst,
              (session.step (.turn index contextFirst)).records =
                session.records ++ [.received place session.now (.ok envelopes)]) ∧
            (call.receiver.stage = .opening → call.context ∉ session.cancelled →
              ∀ contextFirst,
                (session.run [.turn index contextFirst, .turn 0 contextFirst]).records =
                  session.records ++ [.received place session.now (.ok envelopes)]) := by
  intro session
  have follows := follows moves present deadlines isOpen
  have numbered := (orderly moves place).numbered feed present
  refine ⟨numbers_eq_range moves, numbered.nodup, ?arrives, fun number => ?message⟩
  case arrives =>
    intro first envelopes sent offset envelope here
    refine List.mem_flatMap.mpr ⟨_, sent, ?_⟩
    simp [Record.occurrences, here]
  case message =>
    intro history
    have lawful : Lawful span number history := (follows number).lawful
    refine ⟨?kept, ?original, ?paced, ?gone, fun held member => ⟨?due, ?returned⟩⟩
    case kept =>
      intro earlier envelope later split
      rw [split] at lawful
      split
      case isTrue acknowledged =>
        rintro member
        obtain ⟨⟨id, held⟩, holding, rfl⟩ := List.mem_map.mp member
        have standing := ((follows id).holds held).mp holding
        rw [show session.history place id = _ from split,
          standing_eq_none_of_acknowledged lawful acknowledged] at standing
        cases standing
      case isFalse unacknowledged =>
        obtain ⟨deadline, standing⟩ :=
          exists_standing_of_not_acknowledged lawful unacknowledged
        exact ⟨deadline, ((follows number).holds _).mpr (Eq.trans (congrArg _ split) standing)⟩
    case original =>
      intro earlier time envelope later split
      rw [split] at lawful
      obtain ⟨held, present, -, rfl⟩ := lawful.exists_of_handedOut
      obtain ⟨original, arrived, same⟩ := exists_arrived_of_standing present
      exact ⟨original, arrived, by rw [same]⟩
    case paced =>
      intro earlier time envelope between again other later split
      exact refused_or_le_of_handedOut_twice (split ▸ lawful)
    case gone =>
      intro earlier envelope between later split
      exact not_isHandOut_of_acknowledged (split ▸ lawful)
    case due =>
      exact isDue_iff_of_standing lawful (((follows number).holds held).mp member) session.now
    case returned =>
      rintro index call here rfl due reached
      have taken := mem_taken_of_reached deadlines due reached
      have found := List.ne_nil_of_mem taken
      refine ⟨_, taken, fun seen looking => ?_, fun opening live contextFirst => ?_⟩
      · exact records_turn_of_looking here present looking found
      · exact records_turns_of_opening here present opening isOpen live found contextFirst

/-- A message that was handed out at the start is handed out again when its deadline has just
passed. -/
theorem handed_out_again_at_deadline :
    let moves : List Move :=
      [.attach (some ⟨30⟩), .send 0 [{ body := [104, 105] }], .receive 0 0 1, .turn 0 true,
        .turn 0 true, .receive 0 0 1, .elapse 30]
    let feed : Feed :=
      { ackDeadline := some ⟨30⟩
        messages := [(0, { envelope := { body := [104, 105] }, deadline := some 30 })]
        arrivals := 1 }
    let again : Envelope := { body := [104, 105], ackId := some (.broker 0) }
    (sessionOf moves).broker.feed? 0 = some feed ∧ feed.ackDeadline = some ⟨30⟩ ∧
      feed.isClosed = false ∧
      ∃ envelopes, again ∈ envelopes ∧
        ((sessionOf moves).run [.turn 0 true, .turn 0 true]).records =
          (sessionOf moves).records ++ [.received 0 30 (.ok envelopes)] := by
  intro moves feed again
  have present : (sessionOf moves).broker.feed? 0 = some feed := by decide +kernel
  have promises := kept_until_acknowledged present rfl rfl
  obtain ⟨-, returned⟩ := (promises.2.2.2 0).2.2.2.2 _ (.head _)
  obtain ⟨envelopes, member, -, opening⟩ :=
    returned 0 ⟨0, 0, { requested := 1 }⟩ (by decide +kernel) rfl (by decide +kernel)
      ⟨[], [], rfl, by decide⟩
  exact ⟨present, rfl, rfl, envelopes, member, opening rfl (by decide +kernel) true⟩

end Broker
end PubSub
