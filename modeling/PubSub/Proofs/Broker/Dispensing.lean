import PubSub.Proofs.Broker.Settling

/-!
# The order in which a feed hands messages out

A walk over a feed hands out messages in the order of their numbers, at least one and no more than
were asked for or may be handed out at once. It passes over none that was never handed out before,
because such a message is always due. So messages are handed out for the first time in the order in
which they were sent, as long as nobody settles a message that the feed has not handed out. A feed
without deadlines forgets what it hands out: what it has handed out, followed by what it holds, is
what was sent to it.
-/

namespace PubSub

/-! ## Lists of numbered messages -/

/-- No message is in a list before one that was sent earlier, unless it was there already. -/
def FirstInOrder (handedOut arrivals : List (Nat × Envelope)) : Prop :=
  ∀ before message after, handedOut = before ++ message :: after → message ∉ before →
    ∀ earlier ∈ arrivals, earlier.1 < message.1 → earlier ∈ before

namespace FirstInOrder

variable {past present arrivals more : List (Nat × Envelope)}

theorem nil (arrivals : List (Nat × Envelope)) : FirstInOrder [] arrivals :=
  fun _ _ _ split => absurd split.symm (by simp)

/-- A list stays in order if what is added to it is in order after it. -/
theorem append
    (inOrder : FirstInOrder past arrivals)
    (next : ∀ before message after, present = before ++ message :: after →
      ∀ earlier ∈ arrivals, earlier.1 < message.1 → earlier ∈ past ++ before) :
    FirstInOrder (past ++ present) arrivals := by
  intro before message after split unseen earlier member less
  rcases List.append_eq_append_iff.mp split with ⟨middle, rfl, tail⟩ | ⟨middle, whole, tail⟩
  · exact next middle message after tail earlier member less
  · cases middle with
    | nil =>
        obtain rfl : past = before := by simpa using whole
        simpa using next [] message after tail.symm earlier member less
    | cons first rest =>
        obtain rfl := (List.cons.inj tail).1
        exact inOrder before message rest whole unseen earlier member less

/-- What arrives later does not matter. -/
theorem extend
    (inOrder : FirstInOrder past arrivals)
    (later : ∀ message ∈ past, ∀ new ∈ more, message.1 < new.1) :
    FirstInOrder past (arrivals ++ more) := by
  intro before message after split unseen earlier member less
  rcases List.mem_append.mp member with old | new
  · exact inOrder before message after split unseen earlier old less
  · have known : message ∈ past := split ▸ List.mem_append_right _ (.head _)
    exact absurd less (Nat.lt_asymm (later message known earlier new))

end FirstInOrder

/-- In a sorted list, what has a smaller number stands before. -/
theorem mem_of_fst_lt
    {Value : Type}
    {before after : List (Nat × Value)}
    {here other : Nat × Value}
    (sorted : ((before ++ here :: after).map Prod.fst).Pairwise (· < ·))
    (member : other ∈ before ++ here :: after)
    (less : other.1 < here.1) : other ∈ before := by
  rcases List.mem_append.mp member with front | back
  · exact front
  · rw [List.map_append, List.map_cons, List.pairwise_append, List.pairwise_cons] at sorted
    rcases List.mem_cons.mp back with rfl | rest
    · exact absurd less (Nat.lt_irrefl _)
    · exact absurd (sorted.2.1.1 _ (List.mem_map_of_mem rest)) (Nat.lt_asymm less)

namespace Feed

variable {ackDeadline : Option Duration} {now requested room : Nat} {feed : Feed}
  {messages : List (Nat × HeldMessage)} {held : Nat × HeldMessage}

/-- A message without its deadline. -/
def bare (held : Nat × HeldMessage) : Nat × Envelope := (held.1, held.2.envelope)

/-- The messages that a feed holds, without their deadlines. -/
def contents (feed : Feed) : List (Nat × Envelope) := feed.messages.map bare

/-- A message as a receiver gets it; with a deadline its token is its number. -/
def delivered (ackDeadline : Option Duration) (message : Nat × Envelope) : Envelope :=
  match ackDeadline with
  | some _ => { message.2 with ackId := some (.broker message.1) }
  | none => message.2

/-- The messages that a look at a feed hands out. -/
def handOut (feed : Feed) (now requested : Nat) : List (Nat × Envelope) :=
  (ripe now (batchLimit requested) feed.messages).map bare

@[simp] theorem bare_fresh (message : Nat × Envelope) : bare (fresh message) = message := rfl

@[simp] theorem map_bare_map_fresh (messages : List (Nat × Envelope)) :
    (messages.map fresh).map bare = messages := by
  rw [List.map_map]
  exact List.map_id _

theorem fresh_bare (undated : held.2.deadline = none) : fresh (bare held) = held := by
  obtain ⟨number, envelope, deadline⟩ := held
  cases undated
  rfl

theorem keys_contents (feed : Feed) :
    feed.contents.map Prod.fst = feed.messages.map Prod.fst := by
  rw [contents, List.map_map]
  rfl

theorem contents_add (feed : Feed) (first : Nat) (envelopes : List Envelope) :
    (feed.add first envelopes).contents = feed.contents ++ incoming first envelopes := by
  rw [contents, messages_add, List.map_append, map_bare_map_fresh, contents]

@[simp] theorem contents_release (feed : Feed) (numbers : List Nat) :
    (feed.release numbers).contents = feed.contents := by
  rw [contents, release, List.map_map]
  refine List.map_congr_left fun held _ => ?_
  simp only [Function.comp_apply]
  split <;> rfl

theorem contents_forget_sublist (feed : Feed) (numbers : List Nat) :
    (feed.forget numbers).contents.Sublist feed.contents :=
  List.filter_sublist.map bare

theorem taken_look (feed : Feed) (now requested : Nat) :
    (feed.look now requested).taken =
      (feed.handOut now requested).map (delivered feed.ackDeadline) := by
  rw [look, taken_scan, handOut, List.map_map]
  refine List.map_congr_left fun held _ => ?_
  cases feed.ackDeadline <;> rfl

theorem length_handOut_le (feed : Feed) (now requested : Nat) :
    (feed.handOut now requested).length ≤ batchLimit requested := by
  rw [handOut, ripe, List.length_map]
  exact List.length_take_le ..

theorem handOut_sublist (feed : Feed) (now requested : Nat) :
    (feed.handOut now requested).Sublist feed.contents :=
  ripe_sublist.map bare

/-- A walk adds nothing to what is held, deadlines apart. -/
theorem map_bare_left_sublist :
    ((scan ackDeadline now room messages).left.map bare).Sublist (messages.map bare) := by
  induction messages generalizing room with
  | nil => simp [scan]
  | cons held rest hypothesis =>
      cases room with
      | zero => exact List.Sublist.refl _
      | succ room =>
          cases due : held.2.isDue now with
          | true =>
              cases ackDeadline with
              | none => simpa [scan, due] using hypothesis.cons _
              | some span => simpa [scan, due, bare] using hypothesis
          | false => simpa [scan, due] using hypothesis

/-- What a walk does not hand out stays as it is. -/
theorem mem_left_of_not_ripe
    (distinct : (messages.map Prod.fst).Nodup)
    (member : held ∈ messages)
    (kept : held.1 ∉ (ripe now room messages).map Prod.fst) :
    held ∈ (scan ackDeadline now room messages).left := by
  cases ackDeadline with
  | none =>
      rw [left_scan_none distinct]
      exact List.mem_filter.mpr ⟨member, by simpa using kept⟩
  | some span =>
      rw [left_scan_some distinct]
      exact List.mem_map.mpr ⟨held, member, if_neg kept⟩

section Undated

variable (undated : ∀ held ∈ messages, held.2.deadline = none)

include undated

/-- Without deadlines everything is due. -/
theorem ripe_of_undated : ripe now room messages = messages.take room := by
  rw [ripe, List.filter_eq_self.mpr]
  intro held member
  exact HeldMessage.isDue_eq_true_iff.mpr (by simp [undated held member])

theorem left_of_undated : (scan none now room messages).left = messages.drop room := by
  induction messages generalizing room with
  | nil => simp [scan]
  | cons held rest hypothesis =>
      rw [List.forall_mem_cons] at undated
      cases room with
      | zero => rfl
      | succ room =>
          have due : held.2.isDue now = true :=
            HeldMessage.isDue_eq_true_iff.mpr (by simp [undated.1])
          simpa [scan, due] using hypothesis undated.2

end Undated

/-! ## What a feed has handed out -/

/-- What a feed has handed out, look for look, of the messages that were sent to it. -/
structure Dispenses
    (feed : Feed)
    (arrivals : List (Nat × Envelope))
    (deliveries : List (List (Nat × Envelope))) : Prop where
  held : feed.contents.Sublist arrivals
  sublists : ∀ delivery ∈ deliveries, delivery.Sublist arrivals
  inOrder : FirstInOrder deliveries.flatten arrivals
  /-- What was never handed out is held and due, unless the feed was closed before. -/
  waiting : ∀ message ∈ arrivals, message ∉ deliveries.flatten →
    fresh message ∈ feed.messages ∨
      feed.isClosed = true ∧ ∀ held ∈ feed.messages, held.1 < message.1
  once : feed.ackDeadline = none →
    (∀ held ∈ feed.messages, held.2.deadline = none) ∧
      deliveries.flatten ++ feed.contents <+: arrivals ∧
      (feed.isClosed = false → deliveries.flatten ++ feed.contents = arrivals)

namespace Dispenses

variable {arrivals : List (Nat × Envelope)} {deliveries : List (List (Nat × Envelope))}
  {numbers : List Nat} {nextId : Nat}

theorem empty (ackDeadline : Option Duration) : ({ ackDeadline } : Feed).Dispenses [] [] :=
  ⟨.slnil, by simp, .nil _, by simp, fun _ => ⟨by simp, List.prefix_rfl, fun _ => rfl⟩⟩

theorem mem_arrivals
    (dispenses : feed.Dispenses arrivals deliveries)
    {message : Nat × Envelope}
    (member : message ∈ deliveries.flatten) : message ∈ arrivals := by
  obtain ⟨delivery, known, inside⟩ := List.mem_flatten.mp member
  exact (dispenses.sublists delivery known).subset inside

/-- Messages arrive at a feed that is open. -/
theorem add
    (dispenses : feed.Dispenses arrivals deliveries)
    (isOpen : feed.isClosed = false)
    (issued : ∀ message ∈ arrivals, message.1 < nextId)
    (envelopes : List Envelope) :
    (feed.add nextId envelopes).Dispenses (arrivals ++ incoming nextId envelopes) deliveries := by
  constructor
  case held =>
    rw [contents_add]
    exact dispenses.held.append (List.Sublist.refl _)
  case sublists =>
    intro delivery member
    exact (dispenses.sublists delivery member).trans (List.sublist_append_left ..)
  case inOrder =>
    refine dispenses.inOrder.extend fun message member new arrived => ?_
    have number : new.1 ∈ List.range' nextId envelopes.length :=
      keys_incoming nextId envelopes ▸ List.mem_map_of_mem arrived
    have known := issued message (dispenses.mem_arrivals member)
    exact Nat.lt_of_lt_of_le known (List.mem_range'_1.mp number).1
  case waiting =>
    intro message member unseen
    rw [messages_add]
    rcases List.mem_append.mp member with old | new
    · rcases dispenses.waiting message old unseen with here | ⟨closed, -⟩
      · exact .inl (List.mem_append_left _ here)
      · exact Bool.noConfusion (isOpen.symm.trans closed)
    · exact .inl (List.mem_append_right _ (List.mem_map_of_mem new))
  case once =>
    intro forgets
    obtain ⟨undated, -, whole⟩ := dispenses.once forgets
    have conserved : deliveries.flatten ++ (feed.add nextId envelopes).contents =
        arrivals ++ incoming nextId envelopes := by
      rw [contents_add, ← List.append_assoc, whole isOpen]
    refine ⟨?_, conserved ▸ List.prefix_rfl, fun _ => conserved⟩
    rw [messages_add, List.forall_mem_append]
    exact ⟨undated, List.forall_mem_map.mpr fun _ _ => rfl⟩

/-- Messages are sent when the feed is closed. -/
theorem miss
    (dispenses : feed.Dispenses arrivals deliveries)
    (closed : feed.isClosed = true)
    (numbered : feed.IsNumbered nextId)
    (issued : ∀ message ∈ arrivals, message.1 < nextId)
    (envelopes : List Envelope) :
    feed.Dispenses (arrivals ++ incoming nextId envelopes) deliveries := by
  have later : ∀ message ∈ incoming nextId envelopes, nextId ≤ message.1 := by
    intro message member
    have number : message.1 ∈ List.range' nextId envelopes.length :=
      keys_incoming nextId envelopes ▸ List.mem_map_of_mem member
    exact (List.mem_range'_1.mp number).1
  constructor
  case held => exact dispenses.held.trans (List.sublist_append_left ..)
  case sublists =>
    intro delivery member
    exact (dispenses.sublists delivery member).trans (List.sublist_append_left ..)
  case inOrder =>
    refine dispenses.inOrder.extend fun message member new arrived => ?_
    exact Nat.lt_of_lt_of_le (issued message (dispenses.mem_arrivals member)) (later new arrived)
  case waiting =>
    intro message member unseen
    rcases List.mem_append.mp member with old | new
    · exact dispenses.waiting message old unseen
    · refine .inr ⟨closed, fun held inside => ?_⟩
      have known := numbered.issued held.1 (List.mem_map_of_mem inside)
      exact Nat.lt_of_lt_of_le known (later message new)
  case once =>
    intro forgets
    obtain ⟨undated, prior, -⟩ := dispenses.once forgets
    refine ⟨undated, prior.trans (List.prefix_append ..), fun isOpen => ?_⟩
    exact Bool.noConfusion (isOpen.symm.trans closed)

/-- Messages that were handed out are forgotten. -/
theorem forget
    (dispenses : feed.Dispenses arrivals deliveries)
    (distinct : (arrivals.map Prod.fst).Nodup)
    (own : ∀ number ∈ numbers, ∃ message ∈ deliveries.flatten, message.1 = number) :
    (feed.forget numbers).Dispenses arrivals deliveries where
  held := (feed.contents_forget_sublist numbers).trans dispenses.held
  sublists := dispenses.sublists
  inOrder := dispenses.inOrder
  waiting message member unseen := by
    refine (dispenses.waiting message member unseen).imp (fun here => ?_) ?_
    · refine List.mem_filter.mpr ⟨here, decide_eq_true fun named => ?_⟩
      obtain ⟨other, known, same⟩ := own _ named
      have equal : other = message :=
        List.inj_on_of_nodup_map distinct (dispenses.mem_arrivals known) member same
      exact unseen (equal ▸ known)
    · rintro ⟨closed, beyond⟩
      exact ⟨closed, fun held inside => beyond held (List.mem_filter.mp inside).1⟩
  once forgets := by
    obtain ⟨undated, prior, whole⟩ := dispenses.once forgets
    have same : feed.forget numbers = feed := by
      have kept : feed.messages.filter (fun held => held.1 ∉ numbers) = feed.messages := by
        refine List.filter_eq_self.mpr fun held member => decide_eq_true fun named => ?_
        obtain ⟨other, known, same⟩ := own _ named
        have apart := distinct.sublist (prior.sublist.map Prod.fst)
        rw [List.map_append, keys_contents, List.nodup_append] at apart
        exact apart.2.2 _ (List.mem_map_of_mem known) _ (List.mem_map_of_mem member) same
      rw [Feed.forget, kept]
    rw [same]
    exact ⟨undated, prior, whole⟩

/-- Messages are made due. -/
theorem release (dispenses : feed.Dispenses arrivals deliveries) (numbers : List Nat) :
    (feed.release numbers).Dispenses arrivals deliveries := by
  constructor
  case held => exact (feed.contents_release numbers).symm ▸ dispenses.held
  case sublists => exact dispenses.sublists
  case inOrder => exact dispenses.inOrder
  case waiting =>
    intro message member unseen
    refine (dispenses.waiting message member unseen).imp (fun here => ?_) ?_
    · refine List.mem_map.mpr ⟨fresh message, here, ?_⟩
      split <;> rfl
    · rintro ⟨closed, beyond⟩
      refine ⟨closed, fun held inside => ?_⟩
      have number : held.1 ∈ feed.messages.map Prod.fst :=
        keys_release numbers ▸ List.mem_map_of_mem inside
      obtain ⟨old, known, same⟩ := List.mem_map.mp number
      exact same ▸ beyond old known
  case once =>
    intro forgets
    obtain ⟨undated, prior, whole⟩ := dispenses.once forgets
    rw [contents_release]
    refine ⟨fun held inside => ?_, prior, whole⟩
    obtain ⟨old, known, rfl⟩ := List.mem_map.mp inside
    split
    · rfl
    · exact undated old known

theorem close (dispenses : feed.Dispenses arrivals deliveries) :
    ({ feed with isClosed := true } : Feed).Dispenses arrivals deliveries where
  held := dispenses.held
  sublists := dispenses.sublists
  inOrder := dispenses.inOrder
  waiting message member unseen :=
    (dispenses.waiting message member unseen).imp_right fun ⟨_, beyond⟩ => ⟨rfl, beyond⟩
  once forgets := by
    obtain ⟨undated, prior, -⟩ := dispenses.once forgets
    exact ⟨undated, prior, fun isOpen => Bool.noConfusion isOpen⟩

/-- A message that was never handed out is due, so a look does not pass over it to one with a larger
number. -/
theorem mem_before_of_lt
    (dispenses : feed.Dispenses arrivals deliveries)
    (increasing : (feed.messages.map Prod.fst).Pairwise (· < ·))
    {before after : List (Nat × Envelope)}
    {message earlier : Nat × Envelope}
    (split : feed.handOut now requested = before ++ message :: after)
    (member : earlier ∈ arrivals)
    (less : earlier.1 < message.1)
    (unseen : earlier ∉ deliveries.flatten) : earlier ∈ before := by
  obtain ⟨first, second, ripe, rfl, rest⟩ := List.map_eq_append_iff.mp split
  obtain ⟨held, others, rfl, rfl, rfl⟩ := List.map_eq_cons_iff.mp rest
  let due := feed.messages.filter fun held => held.2.isDue now
  have whole : due = first ++ held :: (others ++ due.drop (batchLimit requested)) := by
    rw [← List.cons_append, ← List.append_assoc, ← ripe]
    exact (List.take_append_drop ..).symm
  have taken : held ∈ due := whole ▸ List.mem_append_right _ (.head _)
  rcases dispenses.waiting earlier member unseen with here | ⟨-, beyond⟩
  · have reached : fresh earlier ∈ due := List.mem_filter.mpr ⟨here, rfl⟩
    have sorted : (due.map Prod.fst).Pairwise (· < ·) :=
      increasing.sublist (List.filter_sublist.map Prod.fst)
    rw [whole] at sorted reached
    exact List.mem_map_of_mem (mem_of_fst_lt sorted reached less)
  · exact absurd less (Nat.lt_asymm (beyond held (List.mem_filter.mp taken).1))

/-- A receiver looks at the feed. -/
theorem look
    (dispenses : feed.Dispenses arrivals deliveries)
    (increasing : (feed.messages.map Prod.fst).Pairwise (· < ·))
    (now requested : Nat) :
    ({ feed with messages := (feed.look now requested).left } : Feed).Dispenses arrivals
      (deliveries ++ [feed.handOut now requested]) := by
  have fewer : ((feed.look now requested).left.map bare).Sublist feed.contents :=
    map_bare_left_sublist
  constructor
  case held => exact fewer.trans dispenses.held
  case sublists =>
    rw [List.forall_mem_append, List.forall_mem_singleton]
    exact ⟨dispenses.sublists, (feed.handOut_sublist now requested).trans dispenses.held⟩
  case inOrder =>
    rw [List.flatten_append, List.flatten_singleton]
    refine dispenses.inOrder.append fun before message after split earlier member less => ?_
    by_cases seen : earlier ∈ deliveries.flatten
    · exact List.mem_append_left _ seen
    · exact List.mem_append_right _ (dispenses.mem_before_of_lt increasing split member less seen)
  case waiting =>
    intro message member unseen
    rw [List.flatten_append, List.flatten_singleton, List.mem_append, not_or] at unseen
    refine (dispenses.waiting message member unseen.1).imp (fun here => ?_) ?_
    · have distinct : (feed.messages.map Prod.fst).Nodup := increasing.imp Nat.ne_of_lt
      refine mem_left_of_not_ripe distinct here fun taken => unseen.2 ?_
      obtain ⟨held, ripe, same⟩ := List.mem_map.mp taken
      have equal : held = fresh message :=
        List.inj_on_of_nodup_map distinct (ripe_sublist.subset ripe) here same
      exact List.mem_map.mpr ⟨held, ripe, by rw [equal, bare_fresh]⟩
    · rintro ⟨closed, beyond⟩
      refine ⟨closed, fun held inside => ?_⟩
      obtain ⟨old, known, same⟩ := List.mem_map.mp (fewer.subset (List.mem_map_of_mem inside))
      have number : old.1 = held.1 := (Prod.ext_iff.mp same).1
      exact number ▸ beyond old known
  case once =>
    intro forgets
    obtain ⟨undated, prior, whole⟩ := dispenses.once forgets
    have left : (feed.look now requested).left =
        feed.messages.drop (batchLimit requested) := by
      rw [Feed.look, show feed.ackDeadline = none from forgets]
      exact left_of_undated undated
    have moved : (deliveries ++ [feed.handOut now requested]).flatten ++
        (feed.look now requested).left.map bare = deliveries.flatten ++ feed.contents := by
      rw [List.flatten_append, List.flatten_singleton, List.append_assoc, handOut,
        ripe_of_undated undated, left, ← List.map_append, List.take_append_drop, contents]
    refine ⟨fun held inside => ?_, ?_, fun isOpen => moved.trans (whole isOpen)⟩
    · exact undated held (List.mem_of_mem_drop (left ▸ inside))
    · rw [Feed.contents, moved]
      exact prior

end Dispenses
end Feed

namespace Broker

/-! ## What records say -/

/-- The messages that a record sends, under their numbers. -/
def Record.arrivals : Record → List (Nat × Envelope)
  | .sent first envelopes => Feed.incoming first envelopes
  | _ => []

/-- The messages that a receiver of the feed at a place has got. -/
def Record.result? (place : Nat) : Record → Option (List Envelope)
  | .received other _ (.ok envelopes) => if other = place then some envelopes else none
  | _ => none

/-- The numbers that were acknowledged or refused at a place. -/
def Record.settled (place : Nat) : Record → List Nat
  | .acknowledged other numbers => if other = place then numbers else []
  | .refused other numbers => if other = place then numbers else []
  | _ => []

namespace Session

/-- The messages that were sent since the feed at a place was attached, oldest first. -/
def arrivals (session : Session) (place : Nat) : List (Nat × Envelope) :=
  (since place session.records).flatMap Record.arrivals

/-- What receivers of the feed at a place have got, oldest first. -/
def results (session : Session) (place : Nat) : List (List Envelope) :=
  (since place session.records).filterMap (Record.result? place)

/-- Whether only messages were acknowledged or refused at a feed whose tokens it had handed out
before. -/
def SettlesOwn (session : Session) (place : Nat) : Prop :=
  ∀ entry ∈ (since place session.records).zipIdx, ∀ number ∈ entry.1.settled place,
    ∃ envelope ∈ ((since place session.records).take entry.2).flatMap (Record.handedOut place),
      envelope.ackId = some (.broker number)

instance (session : Session) (place : Nat) : Decidable (session.SettlesOwn place) :=
  inferInstanceAs (Decidable (∀ entry ∈ (since place session.records).zipIdx,
    ∀ number ∈ entry.1.settled place,
      ∃ envelope ∈ ((since place session.records).take entry.2).flatMap (Record.handedOut place),
        envelope.ackId = some (.broker number)))

end Session

variable {before after session : Session} {place : Nat} {record : Record} {records : List Record}

theorem handedOut_eq_flatten :
    records.flatMap (Record.handedOut place) =
      (records.filterMap (Record.result? place)).flatten := by
  induction records with
  | nil => rfl
  | cons record rest hypothesis =>
      rw [List.flatMap_cons, hypothesis]
      rcases record with _ | _ | ⟨other, time, _ | envelopes⟩ | _ | _
      case received.ok =>
        by_cases here : other = place <;> simp [Record.handedOut, Record.result?, here]
      all_goals rfl

theorem Record.keys_arrivals (record : Record) :
    record.arrivals.map Prod.fst = record.numbers := by
  cases record with
  | sent first envelopes => exact Feed.keys_incoming first envelopes
  | attached | received | acknowledged | refused => rfl

/-- Messages are sent without tokens. -/
theorem Record.ackId_of_mem_arrivals
    {message : Nat × Envelope}
    (member : message ∈ record.arrivals) : message.2.ackId = none := by
  cases record with
  | sent first envelopes =>
      obtain ⟨pair, -, rfl⟩ := List.mem_map.mp member
      rfl
  | attached | received | acknowledged | refused => exact absurd member List.not_mem_nil

theorem Record.IsAside.silent (apart : record.IsAside place) :
    record.arrivals = [] ∧ record.result? place = none := by
  rcases record with _ | _ | ⟨other, time, _ | envelopes⟩ | _ | _ <;>
    simp_all [IsAside, arrivals, result?]

/-- The numbers of what was sent since a feed was attached. -/
theorem keys_arrivals_sublist (moves : List Move) (place : Nat) :
    (((sessionOf moves).arrivals place).map Prod.fst).Sublist
      (List.range (sessionOf moves).broker.nextId) := by
  have keys : ((sessionOf moves).arrivals place).map Prod.fst =
      (since place (sessionOf moves).records).flatMap Record.numbers := by
    rw [Session.arrivals, List.map_flatMap]
    exact List.flatMap_congr fun record _ => record.keys_arrivals
  obtain ⟨past, whole⟩ : since place (sessionOf moves).records <:+ (sessionOf moves).records :=
    List.dropWhile_suffix _
  have split : (sessionOf moves).records.flatMap Record.numbers =
      past.flatMap Record.numbers ++
        (since place (sessionOf moves).records).flatMap Record.numbers := by
    rw [← List.flatMap_append, whole]
  rw [keys, ← numbers_eq_range, split]
  exact List.sublist_append_right ..

namespace Session

variable {happened : List Record}

theorem arrivals_append
    (past : since place after.records = since place before.records ++ happened) :
    after.arrivals place = before.arrivals place ++ happened.flatMap Record.arrivals := by
  rw [arrivals, past, List.flatMap_append, ← arrivals]

theorem results_append (past : since place after.records = since place before.records ++ happened) :
    after.results place = before.results place ++ happened.filterMap (Record.result? place) := by
  rw [results, past, List.filterMap_append, ← results]

/-- What was settled before was settled rightly. -/
theorem SettlesOwn.of_append
    (own : after.SettlesOwn place)
    (past : since place after.records = since place before.records ++ happened) :
    before.SettlesOwn place := by
  intro entry member number named
  obtain ⟨envelope, known, token⟩ := own entry
    (by rw [past, List.zipIdx_append]; exact List.mem_append_left _ member) number named
  rw [past, List.take_append_of_le_length (List.snd_lt_of_mem_zipIdx member).le] at known
  exact ⟨envelope, known, token⟩

/-- What is settled was handed out. -/
theorem SettlesOwn.of_last
    (own : after.SettlesOwn place)
    (past : since place after.records = since place before.records ++ [record]) :
    ∀ number ∈ record.settled place,
      ∃ envelope ∈ (before.results place).flatten, envelope.ackId = some (.broker number) := by
  intro number named
  rw [results, ← handedOut_eq_flatten]
  obtain ⟨envelope, known, token⟩ := own (record, (since place before.records).length)
    (by rw [past, List.zipIdx_append]; simp) number named
  rw [past, List.take_left] at known
  exact ⟨envelope, known, token⟩

end Session

/-! ## Whatever happens -/

/-- What the feed at a place has handed out, and what its receivers have got. -/
def Session.Dispenses (session : Session) (place : Nat) (feed : Feed) : Prop :=
  ∃ deliveries : List (List (Nat × Envelope)),
    session.results place = deliveries.map (List.map (Feed.delivered feed.ackDeadline)) ∧
      feed.Dispenses (session.arrivals place) deliveries

/-- Nothing is sent, and no receiver gets anything. -/
theorem Session.Dispenses.of_silent
    {feed : Feed}
    {deliveries : List (List (Nat × Envelope))}
    (past : since place after.records = since place before.records ++ records)
    (unsent : records.flatMap Record.arrivals = [])
    (silent : records.filterMap (Record.result? place) = [])
    (results : before.results place = deliveries.map (List.map (Feed.delivered feed.ackDeadline)))
    (dispenses : feed.Dispenses (before.arrivals place) deliveries) :
    after.Dispenses place feed := by
  refine ⟨deliveries, ?_, ?_⟩
  · rw [Session.results_append past, silent, List.append_nil, results]
  · rw [Session.arrivals_append past, unsent, List.append_nil]
    exact dispenses

/-- A token that a feed has handed out is the number of a message that it has handed out. -/
theorem exists_of_token
    {ackDeadline : Option Duration}
    {deliveries : List (List (Nat × Envelope))}
    {number : Nat}
    (bareTokens : ∀ message ∈ deliveries.flatten, message.2.ackId = none)
    (known : ∃ envelope ∈ (deliveries.map (List.map (Feed.delivered ackDeadline))).flatten,
      envelope.ackId = some (.broker number)) :
    ∃ message ∈ deliveries.flatten, message.1 = number := by
  obtain ⟨envelope, member, token⟩ := known
  rw [← List.map_flatten] at member
  obtain ⟨message, inside, rfl⟩ := List.mem_map.mp member
  refine ⟨message, inside, ?_⟩
  cases ackDeadline with
  | none => exact absurd ((bareTokens message inside).symm.trans token) (by simp)
  | some span => simpa [Feed.delivered] using token

/-- Whatever happens, a feed hands out what was sent to it. -/
theorem Passage.dispenses
    {feed : Feed}
    (passage : Passage place before after)
    (orderly : before.Orderly place)
    (keys : ((before.arrivals place).map Prod.fst).Sublist (List.range before.broker.nextId))
    (own : after.SettlesOwn place)
    (hypothesis : before.SettlesOwn place → ∀ feed, before.broker.feed? place = some feed →
      before.Dispenses place feed)
    (present : after.broker.feed? place = some feed) : after.Dispenses place feed := by
  have distinct : ((before.arrivals place).map Prod.fst).Nodup := List.nodup_range.sublist keys
  have issued : ∀ message ∈ before.arrivals place, message.1 < before.broker.nextId :=
    fun message member => List.mem_range.mp (keys.subset (List.mem_map_of_mem member))
  cases passage with
  | created absent ackDeadline created records nextId =>
      obtain rfl := Option.some.inj (created.symm.trans present)
      have past := orderly.since_of_created absent records
      refine ⟨[], ?_, ?_⟩
      · rw [Session.results, past]
        rfl
      · rw [Session.arrivals, past]
        exact .empty ackDeadline
  | sent envelopes added records nextId =>
      obtain ⟨feed, earlier, rfl⟩ := Option.map_eq_some_iff.mp (added.symm.trans present)
      have past := orderly.since_eq_append earlier records
      obtain ⟨deliveries, results, dispenses⟩ := hypothesis (own.of_append past) feed earlier
      refine ⟨deliveries, ?_, ?_⟩
      · rw [Session.results_append past, results]
        cases feed.isClosed <;> simp [Record.result?, Feed.add]
      · rw [Session.arrivals_append past, List.flatMap_singleton]
        cases closed : feed.isClosed with
        | true => exact dispenses.miss closed (orderly.numbered feed earlier) issued envelopes
        | false => exact dispenses.add closed issued envelopes
  | @forgot feed earlier numbers forgotten records nextId =>
      obtain rfl := Option.some.inj (forgotten.symm.trans present)
      have past := orderly.since_eq_append earlier records
      obtain ⟨deliveries, results, dispenses⟩ := hypothesis (own.of_append past) feed earlier
      refine .of_silent past rfl rfl results (dispenses.forget distinct fun number named => ?_)
      refine exists_of_token (fun message member => ?_) (results ▸ own.of_last past number ?_)
      · obtain ⟨record, -, sends⟩ := List.mem_flatMap.mp (dispenses.mem_arrivals member)
        exact Record.ackId_of_mem_arrivals sends
      · simpa [Record.settled] using named
  | @released feed earlier numbers released records nextId =>
      obtain rfl := Option.some.inj (released.symm.trans present)
      have past := orderly.since_eq_append earlier records
      obtain ⟨deliveries, results, dispenses⟩ := hypothesis (own.of_append past) feed earlier
      exact .of_silent past rfl rfl results (dispenses.release numbers)
  | @handedOut feed earlier requested looked records nextId =>
      obtain rfl := Option.some.inj (looked.symm.trans present)
      have past := orderly.since_eq_append earlier records
      obtain ⟨deliveries, results, dispenses⟩ := hypothesis (own.of_append past) feed earlier
      refine ⟨deliveries ++ [feed.handOut before.now requested], ?_, ?_⟩
      · rw [Session.results_append past, results, List.map_append, Feed.taken_look]
        simp [Record.result?]
      · rw [Session.arrivals_append past]
        exact (List.append_nil (before.arrivals place)).symm ▸
          dispenses.look (orderly.numbered feed earlier).increasing before.now requested
  | @closed feed earlier closed records nextId =>
      obtain rfl := Option.some.inj (closed.symm.trans present)
      have past := orderly.since_eq_append earlier (records.trans (List.append_nil _).symm)
      obtain ⟨deliveries, results, dispenses⟩ := hypothesis (own.of_append past) feed earlier
      exact .of_silent past rfl rfl results dispenses.close
  | @aside happened same records apart nextId =>
      have earlier := same.symm.trans present
      have past := orderly.since_eq_append earlier records
      obtain ⟨deliveries, results, dispenses⟩ := hypothesis (own.of_append past) feed earlier
      exact .of_silent past
        (List.flatMap_eq_nil_iff.mpr fun record member => (apart record member).silent.1)
        (List.filterMap_eq_nil_iff.mpr fun record member => (apart record member).silent.2)
        results dispenses

theorem dispenses
    {feed : Feed}
    (moves : List Move)
    (own : (sessionOf moves).SettlesOwn place)
    (present : (sessionOf moves).broker.feed? place = some feed) :
    (sessionOf moves).Dispenses place feed := by
  induction moves using List.reverseRecOn generalizing feed with
  | nil => exact absurd present (by simp [sessionOf, Session.run, feed?])
  | append_singleton moves move hypothesis =>
      rw [sessionOf_append_singleton] at own present ⊢
      exact ((change_step _ move).passage place).dispenses (orderly moves place)
        (keys_arrivals_sublist moves place) own
        (fun own feed present => hypothesis own present) present

/-! ## One look -/

/-- A receiver that has got messages has got what its look handed out, and that is something. -/
theorem taken_of_step
    {moment : Moment}
    {cancelled : Bool}
    {feed : Feed}
    {receiver : FeedReceiver}
    {envelopes : List Envelope}
    (answered : (receiver.step moment cancelled feed).next = .done (.ok envelopes)) :
    envelopes = (feed.look moment.now receiver.requested).taken ∧ envelopes ≠ [] := by
  cases stage : receiver.stage with
  | opening =>
      simp only [FeedReceiver.step, stage] at answered
      split at answered <;> simp at answered
  | looking seen =>
      simp only [FeedReceiver.step, stage] at answered
      split at answered
      next => simp at answered
      next found =>
        obtain rfl : (feed.look moment.now receiver.requested).taken = envelopes := by
          simpa using answered
        exact ⟨rfl, fun nothing => found (List.isEmpty_iff.mpr nothing)⟩
  | waiting watch =>
      simp only [FeedReceiver.step, stage, FeedReceiver.onWatch] at answered
      split_ifs at answered <;> simp at answered

theorem eq_done_of_answerRecords
    {other time now : Nat}
    {next : Next FeedReceiver (Except BrokerError (List Envelope))}
    {result : Except BrokerError (List Envelope)}
    (answered : answerRecords other now next = [.received place time result]) :
    next = .done result ∧ other = place := by
  cases next with
  | done answer =>
      obtain ⟨rfl, -, rfl⟩ := Record.received.inj (List.cons.inj answered).1
      exact ⟨rfl, rfl⟩
  | _ => exact absurd answered.symm (List.cons_ne_nil _ _)

/-- A receiver gets as many messages as it asks for at most, and at least one; only a turn of its
call gives them to it. -/
theorem exists_call_of_received
    {move : Move}
    {time : Nat}
    {envelopes : List Envelope}
    (received : (session.step move).records =
      session.records ++ [.received place time (.ok envelopes)]) :
    ∃ index contextFirst call, move = .turn index contextFirst ∧
      session.calls[index]? = some call ∧ call.place = place ∧ 1 ≤ envelopes.length ∧
      envelopes.length ≤ min (max call.receiver.requested 1) 100 := by
  have silent : session.records ≠ session.records ++ [.received place time (.ok envelopes)] := by
    simp
  have unsettled (other context : Nat) (ids : List AckId)
      (operation : Feed → Bool → List AckId → Except BrokerError Unit × Feed)
      (happened : List Nat → Record)
      (differ : ∀ numbers, happened numbers ≠ .received place time (.ok envelopes)) :
      (session.settle other context ids operation happened).records ≠
        session.records ++ [.received place time (.ok envelopes)] := by
    unfold Session.settle
    split
    next => exact silent
    next =>
      dsimp only
      split
      next => simpa using differ _
      next => simp
  cases move with
  | attach ackDeadline => simp [Session.step] at received
  | send context sent =>
      simp only [Session.step] at received
      split at received <;> simp at received
  | acknowledge other context ids =>
      exact absurd received (unsettled other context ids _ _ fun _ => Record.noConfusion)
  | refuse other context ids =>
      exact absurd received (unsettled other context ids _ _ fun _ => Record.noConfusion)
  | receive | cancel | abandon | close | closeFeed | elapse => exact absurd received silent
  | turn index contextFirst =>
      cases here : session.calls[index]? with
      | none => exact absurd (by simpa only [Session.step, here] using received) silent
      | some call =>
          cases present : session.broker.feed? call.place with
          | none => exact absurd (by simpa only [Session.step, here, present] using received) silent
          | some feed =>
              simp only [Session.step, here, present, Session.turn] at received
              obtain ⟨answered, at_place⟩ :=
                eq_done_of_answerRecords (List.append_cancel_left received)
              obtain ⟨rfl, found⟩ := taken_of_step answered
              refine ⟨index, contextFirst, call, rfl, here, at_place,
                List.length_pos_iff.mpr found, ?_⟩
              rw [Feed.taken_look, List.length_map]
              exact feed.length_handOut_le session.now call.receiver.requested

/-- Every receiver of a feed gets messages in the order of their numbers. As long as a feed settles
only what it has handed out, no message is handed out for the first time before one that was sent
earlier, and without deadlines each is handed out once at most. -/
theorem handed_out_in_order_of_sending
    {moves : List Move}
    {place : Nat}
    {feed : Feed}
    (present : (sessionOf moves).broker.feed? place = some feed)
    (own : (sessionOf moves).SettlesOwn place) :
    let session := sessionOf moves
    let sent := session.arrivals place
    (sent.map Prod.fst).Pairwise (· < ·) ∧
    (∃ deliveries : List (List (Nat × Envelope)),
      session.results place = deliveries.map (List.map (Feed.delivered feed.ackDeadline)) ∧
      (∀ delivery ∈ deliveries,
        delivery.Sublist sent ∧ (delivery.map Prod.fst).Pairwise (· < ·)) ∧
      (∀ before message after, deliveries.flatten = before ++ message :: after →
        message ∉ before → ∀ earlier ∈ sent, earlier.1 < message.1 → earlier ∈ before) ∧
      (feed.ackDeadline = none →
        (deliveries.flatten.map Prod.fst).Nodup ∧ deliveries.flatten <+: sent ∧
        (feed.isClosed = false →
          feed.messages = (sent.drop deliveries.flatten.length).map fun message =>
            (message.1, { envelope := message.2 })))) ∧
    ∀ move time envelopes,
      (session.step move).records = session.records ++ [.received place time (.ok envelopes)] →
      ∃ index contextFirst call, move = .turn index contextFirst ∧
        session.calls[index]? = some call ∧ call.place = place ∧ 1 ≤ envelopes.length ∧
        envelopes.length ≤ min (max call.receiver.requested 1) 100 := by
  intro session sent
  have increasing : (sent.map Prod.fst).Pairwise (· < ·) :=
    List.pairwise_lt_range.sublist (keys_arrivals_sublist moves place)
  obtain ⟨deliveries, results, dispenses⟩ := dispenses moves own present
  refine ⟨increasing, ⟨deliveries, results, fun delivery member => ?sorted, dispenses.inOrder,
    fun forgets => ?once⟩, fun _ _ _ => exists_call_of_received⟩
  case sorted =>
    have sublist := dispenses.sublists delivery member
    exact ⟨sublist, increasing.sublist (sublist.map Prod.fst)⟩
  case once =>
    obtain ⟨undated, conserved, whole⟩ := dispenses.once forgets
    have prior : deliveries.flatten <+: sent := (List.prefix_append ..).trans conserved
    refine ⟨(increasing.sublist (prior.sublist.map Prod.fst)).imp Nat.ne_of_lt, prior,
      fun isOpen => ?_⟩
    have rest : sent.drop deliveries.flatten.length = feed.contents := by
      rw [← show deliveries.flatten ++ feed.contents = sent from whole isOpen, List.drop_left]
    have kept : feed.contents.map Feed.fresh = feed.messages.map id := by
      rw [Feed.contents, List.map_map]
      exact List.map_congr_left fun held member => Feed.fresh_bare (undated held member)
    rw [rest]
    exact (kept.trans (List.map_id _)).symm

/-- A message that was refused is handed out again, in front of one that is handed out for the first
time. -/
theorem handed_out_in_order_of_refused :
    let moves : List Move :=
      [.attach (some ⟨30⟩), .send 0 [{ body := [97] }, { body := [98] }, { body := [99] }],
        .receive 0 0 2, .turn 0 true, .turn 0 true, .refuse 0 0 [.broker 0], .receive 0 0 2,
        .turn 0 true, .turn 0 true]
    let session := sessionOf moves
    session.SettlesOwn 0 ∧
      session.results 0 =
        [[{ body := [97], ackId := some (.broker 0) }, { body := [98], ackId := some (.broker 1) }],
          [{ body := [97], ackId := some (.broker 0) }, { body := [99], ackId := some (.broker 2) }]] ∧
      ∃ deliveries : List (List (Nat × Envelope)),
        session.results 0 = deliveries.map (List.map (Feed.delivered (some ⟨30⟩))) ∧
        ∀ delivery ∈ deliveries, (delivery.map Prod.fst).Pairwise (· < ·) := by
  intro moves session
  have own : session.SettlesOwn 0 := by decide +kernel
  obtain ⟨feed, present⟩ : ∃ feed, session.broker.feed? 0 = some feed := by
    rw [← Option.isSome_iff_exists]
    decide +kernel
  have span : (session.broker.feed? 0).map Feed.ackDeadline = some (some ⟨30⟩) := by decide +kernel
  obtain ⟨-, ⟨deliveries, results, sorted, -⟩, -⟩ := handed_out_in_order_of_sending present own
  rw [present, Option.map_some, Option.some.injEq] at span
  exact ⟨own, by decide +kernel, deliveries, span ▸ results, fun delivery member =>
    (sorted delivery member).2⟩

end Broker
end PubSub
