import PubSub.Proofs.Broker.Change

/-!
# No arrival is missed

A receiver that waits has found nothing. As long as nothing has arrived since it began to listen,
whatever the feed holds becomes due no sooner than its alarm: other receivers only push deadlines
back, and acknowledgments only remove messages. So while it has no reason to look again, nothing
is due.
-/

namespace PubSub

/-- Every message of a feed has a deadline, no earlier than an alarm. -/
def Feed.IsQuietUntil (feed : Feed) (alarm : Option Nat) : Prop :=
  ∀ held ∈ feed.messages, ∃ time deadline,
    alarm = some time ∧ held.2.deadline = some deadline ∧ time ≤ deadline

namespace Feed

variable {feed after : Feed} {now : Nat} {alarm : Option Nat}

/-- A feed that holds nothing but what it held before stays quiet. -/
theorem IsQuietUntil.of_subset
    (quiet : feed.IsQuietUntil alarm)
    (fewer : after.messages ⊆ feed.messages) :
    after.IsQuietUntil alarm := fun held member => quiet held (fewer member)

/-- A look at a feed only pushes deadlines back. -/
theorem IsQuietUntil.look (quiet : feed.IsQuietUntil alarm) (now requested : Nat) :
    ({ feed with messages := (feed.look now requested).left } : Feed).IsQuietUntil alarm := by
  intro held member
  rcases mem_of_mem_left_scan member with same | ⟨old, present, span, due, rfl⟩
  · exact quiet held same
  · obtain ⟨time, deadline, rings, ends, le⟩ := quiet old present
    have passed := HeldMessage.isDue_eq_true_iff.mp due deadline ends
    exact ⟨time, now + span.nanos, rings, rfl, by omega⟩

/-- Where nothing is due, nothing becomes due before the earliest deadline. -/
theorem isQuietUntil_earliest
    (nothing : ∀ held ∈ feed.messages, held.2.isDue now = false) :
    feed.IsQuietUntil (earliest feed.messages) := by
  intro held member
  obtain ⟨deadline, ends, -⟩ := HeldMessage.isDue_eq_false_iff.mp (nothing held member)
  obtain ⟨time, rings, le⟩ := exists_earliest_le member ends
  exact ⟨time, deadline, rings, ends, le⟩

/-- What a receiver that waits knows of its feed. -/
structure IsWatched (feed : Feed) (watch : Watch) : Prop where
  seen_le : watch.seen ≤ feed.arrivals
  quiet : watch.seen = feed.arrivals → feed.IsQuietUntil watch.alarm

end Feed

namespace Broker

/-- What a call knows about its feed. -/
def Session.Watches (session : Session) (call : Call) : Prop :=
  match call.receiver.stage with
  | .opening => True
  | .looking seen =>
      ∃ feed, session.broker.feed? call.place = some feed ∧ seen ≤ feed.arrivals
  | .waiting watch =>
      ∃ feed, session.broker.feed? call.place = some feed ∧ feed.IsWatched watch

variable {before after session : Session} {place : Nat}

/-- A feed counts arrivals and refusals; whatever else happens to it leaves it quiet. -/
theorem Passage.quiet
    {feed : Feed}
    (passage : Passage place before after)
    (present : before.broker.feed? place = some feed) :
    ∃ later, after.broker.feed? place = some later ∧ feed.arrivals ≤ later.arrivals ∧
      (feed.arrivals = later.arrivals → ∀ alarm, feed.IsQuietUntil alarm →
        later.IsQuietUntil alarm) := by
  cases passage with
  | created absent => exact nomatch absent.symm.trans present
  | sent envelopes added =>
      rw [present, Option.map_some] at added
      refine ⟨_, added, ?_⟩
      cases feed.isClosed with
      | true => exact ⟨Nat.le_refl _, fun _ _ quiet => quiet⟩
      | false =>
          refine ⟨Nat.le_succ _, fun same => ?_⟩
          exact absurd same (Nat.ne_of_lt (Nat.lt_succ_self _))
  | @forgot other earlier numbers forgotten =>
      obtain rfl := Option.some.inj (earlier.symm.trans present)
      exact ⟨_, forgotten, Nat.le_refl _, fun _ _ quiet =>
        quiet.of_subset List.filter_sublist.subset⟩
  | @released other earlier numbers released =>
      obtain rfl := Option.some.inj (earlier.symm.trans present)
      refine ⟨_, released, Nat.le_succ _, fun same => ?_⟩
      exact absurd same (Nat.ne_of_lt (Nat.lt_succ_self _))
  | @handedOut other earlier requested looked =>
      obtain rfl := Option.some.inj (earlier.symm.trans present)
      exact ⟨_, looked, Nat.le_refl _, fun _ _ quiet => quiet.look before.now requested⟩
  | @closed other earlier closed =>
      obtain rfl := Option.some.inj (earlier.symm.trans present)
      exact ⟨_, closed, Nat.le_refl _, fun _ _ quiet => quiet⟩
  | aside same => exact ⟨feed, same.trans present, Nat.le_refl _, fun _ _ quiet => quiet⟩

/-- What a call knows stays true, whatever happens around it. -/
theorem Change.watches
    {call : Call}
    (change : Change before after)
    (watches : before.Watches call) : after.Watches call := by
  unfold Session.Watches at watches ⊢
  split
  · trivial
  case h_2 seen looking =>
    simp only [looking] at watches
    obtain ⟨feed, present, le⟩ := watches
    obtain ⟨later, present, grows, -⟩ := (change.passage call.place).quiet present
    exact ⟨later, present, Nat.le_trans le grows⟩
  case h_3 watch waiting =>
    simp only [waiting] at watches
    obtain ⟨feed, present, le, quiet⟩ := watches
    obtain ⟨later, present, grows, keeps⟩ := (change.passage call.place).quiet present
    refine ⟨later, present, Nat.le_trans le grows, fun same => ?_⟩
    have unchanged : watch.seen = feed.arrivals := by omega
    exact keeps (by omega) watch.alarm (quiet unchanged)

/-- At any time every call knows what it should. -/
theorem watches (moves : List Move) : ∀ call ∈ (sessionOf moves).calls,
    (sessionOf moves).Watches call := by
  refine sessionOf_induction (motive := fun session => ∀ call ∈ session.calls,
    session.Watches call) (by simp) ?_ moves
  intro before after change hypothesis call member
  have known (old : call ∈ before.calls) : after.Watches call :=
    change.watches (hypothesis call old)
  cases change with
  | handedOut present subset | failed subset | left subset => exact known (subset member)
  | @foundNothing call seen feed calls present inside looking subset nothing =>
      rcases List.mem_cons.mp member with rfl | old
      · have watched := hypothesis call inside
        simp only [Session.Watches, looking] at watched
        obtain ⟨other, here, le⟩ := watched
        obtain rfl := Option.some.inj (here.symm.trans present)
        exact ⟨other, here, le, fun _ => Feed.isQuietUntil_earliest nothing⟩
      · exact known (subset old)
  | @opened call feed calls present subset =>
      rcases List.mem_cons.mp member with rfl | old
      · exact ⟨feed, present, Nat.le_refl _⟩
      · exact known (subset old)
  | @began call calls opening subset =>
      rcases List.mem_cons.mp member with rfl | old
      · simp [Session.Watches, opening]
      · exact known (subset old)
  | attached | sent | acknowledged | refused | closed | feedClosed | cancelled | elapsed =>
      exact known member

/-- A call that has a reason to look again begins again in its next turn. -/
theorem step_turn_of_news
    {index : Nat}
    {call : Call}
    {watch : Feed.Watch}
    {feed : Feed}
    (here : session.calls[index]? = some call)
    (present : session.broker.feed? call.place = some feed)
    (waiting : call.receiver.stage = .waiting watch)
    (news : feed.hasNews session.now watch = true)
    (live : call.context ∉ session.cancelled)
    (contextFirst : Bool) :
    session.step (.turn index contextFirst) =
      { session with
        calls :=
          { call with receiver := { call.receiver with stage := .opening } } ::
            session.calls.eraseIdx index } := by
  have uncancelled : session.cancelled.contains call.context = false := by simpa using live
  simp only [Session.step, here, present, Session.turn, FeedReceiver.step, waiting,
    FeedReceiver.onWatch, uncancelled, Bool.false_and, Bool.false_eq_true, if_false, Session.moment,
    news, if_true, setFeed_self present, answerRecords, List.append_nil]
  rfl

/-- While a receiver waits, nothing has arrived since it began to listen and its alarm has not
rung, its feed holds no message that is due, and none becomes due before the alarm; without an
alarm the feed holds nothing. Once something has arrived or the alarm rings, the receiver looks
again in its next turn, unless its context is cancelled. -/
theorem no_arrival_missed
    {moves : List Move}
    {index : Nat}
    {call : Call}
    {watch : Feed.Watch}
    (here : (sessionOf moves).calls[index]? = some call)
    (waiting : call.receiver.stage = .waiting watch) :
    let session := sessionOf moves
    ∃ feed, session.broker.feed? call.place = some feed ∧
      (feed.arrivals = watch.seen →
        (∀ time, watch.alarm = some time → session.now < time) →
        (∀ held ∈ feed.messages, held.2.isDue session.now = false ∧
          ∃ time deadline, watch.alarm = some time ∧ held.2.deadline = some deadline ∧
            time ≤ deadline) ∧
        (watch.alarm = none → feed.messages = [])) ∧
      (feed.arrivals ≠ watch.seen ∨
          (∃ time, watch.alarm = some time ∧ time ≤ session.now) →
        call.context ∉ session.cancelled →
        ∀ contextFirst, session.step (.turn index contextFirst) =
          { session with
            calls :=
              { call with receiver := { call.receiver with stage := .opening } } ::
                session.calls.eraseIdx index }) := by
  intro session
  have watched := watches moves call (List.mem_of_getElem? here)
  simp only [Session.Watches, waiting] at watched
  obtain ⟨feed, present, -, quiet⟩ := watched
  refine ⟨feed, present, fun unnotified sleeping => ⟨fun held member => ?_, fun silent => ?_⟩,
    fun news live contextFirst => ?_⟩
  · obtain ⟨time, deadline, rings, ends, le⟩ := quiet unnotified.symm held member
    refine ⟨HeldMessage.isDue_eq_false_iff.mpr ⟨deadline, ends, ?_⟩,
      time, deadline, rings, ends, le⟩
    exact Nat.lt_of_lt_of_le (sleeping time rings) le
  · refine List.eq_nil_iff_forall_not_mem.mpr fun held member => ?_
    obtain ⟨time, deadline, rings, -⟩ := quiet unnotified.symm held member
    exact nomatch rings.symm.trans silent
  · refine step_turn_of_news here present waiting ?_ live contextFirst
    rw [Feed.hasNews, Bool.or_eq_true, bne_iff_ne, Option.any_eq_true]
    simpa using news

/-- A receiver that waits for a message that another receiver took is not missing anything one
nanosecond before its alarm. -/
theorem nothing_due_before_alarm :
    let moves : List Move :=
      [.attach (some ⟨30⟩), .send 0 [{ body := [104, 105] }], .receive 0 0 1, .turn 0 true,
        .turn 0 true, .receive 0 1 5, .turn 0 true, .turn 0 true, .elapse 29]
    let call : Call := ⟨0, 1, { requested := 5, stage := .waiting ⟨1, some 30⟩ }⟩
    (sessionOf moves).calls[0]? = some call ∧ call.receiver.stage = .waiting ⟨1, some 30⟩ ∧
      ∃ feed, (sessionOf moves).broker.feed? 0 = some feed ∧ feed.messages ≠ [] ∧
        ∀ held ∈ feed.messages, held.2.isDue 29 = false ∧
          ∃ time deadline, some 30 = some time ∧ held.2.deadline = some deadline ∧
            time ≤ deadline := by
  intro moves call
  have here : (sessionOf moves).calls[0]? = some call := by decide +kernel
  have known : ((sessionOf moves).broker.feed? 0).map (fun feed => (feed.arrivals, feed.messages)) =
      some (1, [(0, { envelope := { body := [104, 105] }, deadline := some 30 })]) := by
    decide +kernel
  obtain ⟨feed, present, nothing, -⟩ := no_arrival_missed here rfl
  rw [present, Option.map_some, Option.some.injEq, Prod.mk.injEq] at known
  have sleeping : ∀ time, some 30 = some time → (sessionOf moves).now < time := by
    rintro time rings
    cases rings
    decide +kernel
  exact ⟨here, rfl, feed, present, by simp [known.2], (nothing known.1 sleeping).1⟩

end Broker
end PubSub
