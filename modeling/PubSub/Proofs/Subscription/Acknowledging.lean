import PubSub.Proofs.Batch.Reaching
import PubSub.Proofs.Retry.Members
import PubSub.Proofs.Subscription.Turns

/-!
# Acknowledgments are a batcher at work

What tasks on a subscription do to its acknowledgments is what tasks on a batcher do: a handler
of acknowledgments is a handler task, a shutdown that waits for the acknowledgments is a flush,
and a request that is handed over is an item that is added. `Mirrored` relates a session of a
subscription to a session of a batcher that goes the same way. So whatever holds of every session
of a batcher holds of the acknowledgments of every subscription.

Nobody waits for a single acknowledgment, so none is ever taken back.
-/

namespace PubSub

namespace Batcher

variable {Item : Type}

/-- Whether a record is about items, and not about a call or a flush. -/
@[simp] def Record.isKept : Record Item → Bool
  | .called _ => false
  | .flushed => false
  | _ => true

end Batcher

namespace Subscription

variable {Number : Type}

/-! ## What is the same on both sides -/

/-- What a task is to the acknowledgments. -/
@[simp] def Activity.onAcks? : Activity → Option (Batcher.Activity AckRequest)
  | .handler (.announcing batch) => some (.handler (.starting batch))
  | .handler (.calling batch _) => some (.handler (.working batch))
  | .handler (.failing batch _) => some (.handler (.working batch))
  | .handler (.answering left result) => some (.handler (.answering left result))
  | .timer wakeAt => some (.timer wakeAt)
  | .shutdown _ (.flushing flush) => some (.flush flush)
  | _ => none

/-- The batch of acknowledgments whose handler is to be started. -/
@[simp] def Effect.startedBatch? : Effect → Option (List (Entry AckRequest))
  | .batching (.startHandler batch) => some batch
  | _ => none

/-- What a record says about the acknowledgments. -/
@[simp] def Record.onAcks? : Record → Option (Batcher.Record AckRequest)
  | .accepted entry => some (.accepted entry)
  | .asked effect => effect.startedBatch?.map .taken
  | .tookOver batch => some (.taken batch)
  | .handled batch result => some (.ended batch (.returned result))
  | _ => none

/-- A session of a batcher goes the way of the acknowledgments of a subscription. -/
structure Mirrored (session : Session Number) (batching : Batcher.Session AckRequest) : Prop where
  batcher : session.subscription.acks = some batching.batcher
  activities : (session.activities.filterMap Activity.onAcks?).Perm batching.activities
  now : batching.now = session.now
  records :
    session.records.filterMap Record.onAcks? = batching.records.filter Batcher.Record.isKept

/-- If nothing happens here, nothing happens there. -/
theorem onAcks?_nil :
    ([] : List Record).filterMap Record.onAcks? =
      ([] : List (Batcher.Record AckRequest)).filter Batcher.Record.isKept := rfl

/-- The tasks that are started are the same. -/
@[simp] theorem filterMap_onAcks?_startedBy (effects : List (BatchEffect AckRequest)) :
    (startedBy (effects.map .batching)).filterMap Activity.onAcks? =
      Batcher.startedBy effects := by
  induction effects with
  | nil => rfl
  | cons effect rest hypothesis =>
      rw [startedBy, Batcher.startedBy] at hypothesis ⊢
      cases effect <;> simpa using hypothesis

/-- The batches that are started are the same. -/
@[simp] theorem filterMap_onAcks?_asked (effects : List (BatchEffect AckRequest)) :
    ((effects.map Effect.batching).map Record.asked).filterMap Record.onAcks? =
      Batcher.takenBy effects := by
  rw [List.filterMap_map, List.filterMap_map, Batcher.takenBy]
  congr 1
  funext effect
  cases effect <;> rfl

@[simp] theorem filter_isKept_takenBy (effects : List (BatchEffect AckRequest)) :
    (Batcher.takenBy effects).filter Batcher.Record.isKept = Batcher.takenBy effects := by
  rw [List.filter_eq_self]
  intro record member
  obtain ⟨effect, -, same⟩ := List.mem_filterMap.mp member
  split at same <;> cases same
  rfl

namespace Mirrored

attribute [local simp] List.filterMap_cons

variable {before after : Session Number} {batching later : Batcher.Session AckRequest}

/-! ## Turns that leave the acknowledgments alone -/

/-- Nothing has happened to the acknowledgments. -/
theorem congr
    (mirrored : Mirrored before batching)
    (acks : after.subscription.acks = before.subscription.acks)
    (activities : (after.activities.filterMap Activity.onAcks?).Perm
      (before.activities.filterMap Activity.onAcks?))
    (now : after.now = before.now)
    (records : after.records.filterMap Record.onAcks? =
      before.records.filterMap Record.onAcks?) : Mirrored after batching where
  batcher := acks.trans mirrored.batcher
  activities := activities.trans mirrored.activities
  now := mirrored.now.trans now.symm
  records := records.trans mirrored.records

theorem perm
    {activities : List Activity}
    (same : before.activities.Perm activities)
    (mirrored : Mirrored before batching) : Mirrored { before with activities } batching :=
  mirrored.congr rfl (same.symm.filterMap _) rfl rfl

/-- What has happened since is the same on both sides. -/
theorem grow
    (mirrored : Mirrored before batching)
    {happened : List Record}
    {shown : List (Batcher.Record AckRequest)}
    (same : happened.filterMap Record.onAcks? = shown.filter Batcher.Record.isKept)
    (batcher : after.subscription.acks = some later.batcher)
    (activities : (after.activities.filterMap Activity.onAcks?).Perm later.activities)
    (now : later.now = batching.now)
    (sameTime : after.now = before.now)
    (records : after.records = before.records ++ happened)
    (recorded : later.records = batching.records ++ shown) : Mirrored after later where
  batcher := batcher
  activities := activities
  now := now.trans (mirrored.now.trans sameTime.symm)
  records := by
    rw [records, recorded, List.filterMap_append, List.filter_append, mirrored.records, same]

/-- The task that takes a turn has its place on the other side. -/
theorem split
    (mirrored : Mirrored before batching)
    {activity : Activity}
    {others : List Activity}
    {task : Batcher.Activity AckRequest}
    (found : before.activities.Perm (activity :: others))
    (same : activity.onAcks? = some task) :
    batching.activities.Perm (task :: others.filterMap Activity.onAcks?) := by
  have sorted := (mirrored.perm found).activities
  rw [List.filterMap_cons, same] at sorted
  exact sorted.symm

/-- A turn of a task that is nothing to the acknowledgments, after which no task is left that is
something to them. -/
theorem aside
    (mirrored : Mirrored before batching)
    {activity : Activity}
    {others : List Activity}
    (found : before.activities.Perm (activity :: others))
    (nothing : activity.onAcks? = none)
    (acks : after.subscription.acks = before.subscription.acks)
    (activities : after.activities.filterMap Activity.onAcks? =
      others.filterMap Activity.onAcks?)
    (now : after.now = before.now)
    (records : after.records.filterMap Record.onAcks? =
      before.records.filterMap Record.onAcks?) : Mirrored after batching := by
  refine (mirrored.perm found).congr acks ?_ now records
  rw [activities, List.filterMap_cons, nothing]

end Mirrored

/-- Whether an effect has nothing to do with the acknowledgments. -/
def Effect.IsApart (effect : Effect) : Prop := ∀ inner, effect ≠ .batching inner

theorem Effect.IsApart.onAcks? {effect : Effect} (apart : effect.IsApart) :
    (Record.asked effect).onAcks? = none := by
  cases effect with
  | batching inner => exact absurd rfl (apart inner)
  | _ => rfl

theorem onAcks?_asked
    {effects : List Effect}
    (apart : ∀ effect ∈ effects, effect.IsApart) :
    ∀ record ∈ effects.map Record.asked, record.onAcks? = none := by
  intro record member
  obtain ⟨effect, asked, rfl⟩ := List.mem_map.mp member
  exact (apart effect asked).onAcks?

/-- Nothing is started for the acknowledgments if nothing is asked of them. -/
theorem filterMap_onAcks?_started
    {effects : List Effect}
    (apart : ∀ effect ∈ effects, effect.IsApart)
    (others : List Activity) :
    (startedBy effects ++ others).filterMap Activity.onAcks? =
      others.filterMap Activity.onAcks? := by
  have started : (startedBy effects).filterMap Activity.onAcks? = [] := by
    rw [List.filterMap_eq_nil_iff]
    intro activity member
    obtain ⟨effect, asked, same⟩ := List.mem_filterMap.mp member
    cases effect with
    | startFetch number sizes => cases same; rfl
    | batching inner => exact absurd rfl (apart _ asked inner)
    | _ => contradiction
  rw [List.filterMap_append, started, List.nil_append]

/-- The same if no task that works on the acknowledgments goes on either. -/
theorem filterMap_onAcks?_resumed {Task Result : Type}
    {effects : List Effect}
    (apart : ∀ effect ∈ effects, effect.IsApart)
    {wrap : Task → Activity}
    (wrapped : ∀ task, (wrap task).onAcks? = none)
    (next : Next Task Result)
    (others : List Activity) :
    (startedBy effects ++ (next.tasks.map wrap ++ others)).filterMap Activity.onAcks? =
      others.filterMap Activity.onAcks? := by
  have tasks : (next.tasks.map wrap).filterMap Activity.onAcks? = [] := by
    rw [List.filterMap_map, List.filterMap_eq_nil_iff]
    exact fun task _ => wrapped task
  rw [filterMap_onAcks?_started apart, List.filterMap_append, tasks, List.nil_append]

section Turns

variable [Scalar Number] {session : Session Number} {batching : Batcher.Session AckRequest}
  {others : List Activity}

omit [Scalar Number] in
theorem onAcks?_receiver_records
    (context : Nat)
    (before after : Subscription Number)
    (next : Next Receiver (Outcome Message)) :
    ∀ record ∈ Receiver.records context before after next, record.onAcks? = none := by
  intro record member
  rcases List.mem_append.mp member with popped | received
  · obtain ⟨envelope, -, rfl⟩ := List.mem_map.mp popped
    rfl
  · cases next with
    | done result => rw [List.mem_singleton.mp received]; rfl
    | _ => contradiction

theorem isApart_of_receiver_step
    (moment : Moment)
    (cancelled : Bool)
    (subscription : Subscription Number)
    (receiver : Receiver) :
    ∀ effect ∈ (receiver.step moment cancelled subscription).effects, effect.IsApart := by
  cases receiver with
  | awaiting fetch => simp [Receiver.step]
  | asking =>
      unfold Receiver.step fetchEffects
      dsimp only
      split <;> simp [Effect.IsApart]

/-- A turn of a receiver is nothing to the acknowledgments. -/
theorem Mirrored.receiver
    {context : Nat}
    {receiver : Receiver}
    (mirrored : Mirrored session batching)
    (found : session.activities.Perm (.receiver context receiver :: others))
    (finding : Finding) :
    Mirrored (session.turn finding others (.receiver context receiver)) batching := by
  have apart := isApart_of_receiver_step (session.moment finding)
    (session.cancelled.contains context) session.subscription receiver
  refine mirrored.aside found rfl ?acks (filterMap_onAcks?_resumed apart (fun _ => rfl) _ others)
    rfl (filterMap_append_of_eq_none (fun record member => ?silent) _)
  case acks =>
    cases receiver with
    | awaiting fetch => rfl
    | asking =>
        obtain ⟨_, _, _, _, _, same⟩ :=
          session.subscription.exists_receive_eq (session.cancelled.contains context) session.now
        show (session.subscription.receive _ session.now).subscription.acks = _
        rw [same]
  case silent =>
    rcases List.mem_append.mp member with asked | other
    · exact onAcks?_asked apart record asked
    · exact onAcks?_receiver_records context _ _ _ record other

omit [Scalar Number] in
theorem isApart_of_fetch_step
    (moment : Moment)
    (answer : Answer (Except Fault (List Envelope)))
    (subscription : Subscription Number)
    (fetch : Fetch) :
    ∀ effect ∈ (fetch.step moment answer subscription).effects, effect.IsApart := by
  cases fetch with
  | calling number calls =>
      unfold Fetch.step
      dsimp only
      split <;> simp [Effect.IsApart]
  | storing number result => simp [Fetch.step]
  | waking number => simp [Fetch.step]

omit [Scalar Number] in
theorem acks_fetch_step
    (moment : Moment)
    (answer : Answer (Except Fault (List Envelope)))
    (subscription : Subscription Number)
    (fetch : Fetch) :
    (fetch.step moment answer subscription).state.acks = subscription.acks := by
  cases fetch with
  | calling number calls =>
      unfold Fetch.step
      dsimp only
      split <;> rfl
  | storing number result =>
      obtain ⟨estimator, ended⟩ := exists_fetchEnded_eq subscription moment.now result
      rw [Fetch.step, ended]
  | waking number => rfl

omit [Scalar Number] in
theorem onAcks?_fetch_records
    (answer : Answer (Except Fault (List Envelope)))
    (fetch : Fetch)
    (next : Next Fetch Unit) :
    ∀ record ∈ fetch.records answer next, record.onAcks? = none := by
  intro record member
  cases fetch with
  | calling number calls =>
      rcases List.mem_append.mp member with came | ended
      · obtain ⟨place, -, rfl⟩ := mem_cameTo came
        rfl
      · cases next with
        | done result => rw [List.mem_singleton.mp ended]; rfl
        | _ => contradiction
  | storing number result => rw [List.mem_singleton.mp member]; rfl
  | waking number => contradiction

/-- A turn of a background receive is nothing to the acknowledgments. -/
theorem Mirrored.fetch
    {fetch : Fetch}
    (mirrored : Mirrored session batching)
    (found : session.activities.Perm (.fetch fetch :: others))
    (finding : Finding) :
    Mirrored (session.turn finding others (.fetch fetch)) batching := by
  have apart := isApart_of_fetch_step (session.moment finding) finding.fetched
    session.subscription fetch
  refine mirrored.aside found rfl
    (acks_fetch_step (session.moment finding) finding.fetched session.subscription fetch)
    (filterMap_onAcks?_resumed apart (fun _ => rfl) _ others)
    rfl (filterMap_append_of_eq_none (fun record member => ?_) _)
  rcases List.mem_append.mp member with own | asked
  · exact onAcks?_fetch_records _ _ _ record own
  · exact onAcks?_asked apart record asked

/-! ## Handlers -/

/-- A session of a batcher that goes on goes the way of the acknowledgments. -/
def Follows (session : Session Number) (batching : Batcher.Session AckRequest) : Prop :=
  ∃ later, Relation.ReflTransGen Batcher.Change batching later ∧ Mirrored session later

omit [Scalar Number] in
theorem Mirrored.follows (mirrored : Mirrored session batching) : Follows session batching :=
  ⟨batching, .refl, mirrored⟩

omit [Scalar Number] in
theorem Follows.trans
    {after : Session Number}
    (follows : Follows session batching)
    (next : ∀ {later}, Mirrored session later → Follows after later) : Follows after batching := by
  obtain ⟨middle, changes, mirrored⟩ := follows
  obtain ⟨later, others, goesOn⟩ := next mirrored
  exact ⟨later, changes.trans others, goesOn⟩

omit [Scalar Number] in
theorem Follows.perm
    {activities : List Activity}
    (same : session.activities.Perm activities)
    (follows : Follows session batching) : Follows { session with activities } batching :=
  follows.trans fun mirrored => (mirrored.perm same).follows

attribute [local simp] Session.turn Session.resume Handler.step Handler.records Next.tasks

/-- The handler of a batch announces it and goes on to its driver calls. -/
theorem Mirrored.announcing
    {batch : List (Entry AckRequest)}
    (mirrored : Mirrored session batching)
    (found : session.activities.Perm (.handler (.announcing batch) :: others))
    (finding : Finding) :
    Follows (session.turn finding others (.handler (.announcing batch))) batching := by
  have same : [Record.asked (.publish (dispatchedEvent batch.length))].filterMap Record.onAcks? =
      [Batcher.Record.called batch].filter Batcher.Record.isKept := rfl
  exact ⟨_, .single (.called (mirrored.split found rfl)),
    mirrored.grow same mirrored.batcher (.refl _) rfl rfl rfl rfl⟩

omit [Scalar Number] in
/-- The handler of a batch is still at work. -/
theorem Mirrored.working
    {batch : List (Entry AckRequest)}
    {handler : Handler}
    (mirrored : Mirrored session batching)
    (found : session.activities.Perm (.handler handler :: others))
    (works : (Activity.handler handler).onAcks? = some (.handler (.working batch)))
    (later : Handler)
    (stays : (Activity.handler later).onAcks? = some (.handler (.working batch)))
    (effects : List Effect)
    (apart : ∀ effect ∈ effects, effect.IsApart)
    {happened : List Record}
    (silent : ∀ record ∈ happened, record.onAcks? = none) :
    Follows
      { session with
        activities := startedBy effects ++ .handler later :: others
        records := session.records ++ (happened ++ effects.map .asked) } batching := by
  refine Mirrored.follows ((mirrored.perm found).congr rfl (.of_eq ?activities) rfl ?records)
  case activities =>
    rw [filterMap_onAcks?_started apart, List.filterMap_cons, List.filterMap_cons, stays, works]
  case records =>
    refine filterMap_append_of_eq_none (fun record member => ?_) _
    exact (List.mem_append.mp member).elim (silent record) (onAcks?_asked apart record)

omit [Scalar Number] in
/-- The handler of a batch has come to a result. -/
theorem Mirrored.ended
    {batch : List (Entry AckRequest)}
    {handler : Handler}
    (mirrored : Mirrored session batching)
    (found : session.activities.Perm (.handler handler :: others))
    (works : (Activity.handler handler).onAcks? = some (.handler (.working batch)))
    (result : Outcome Unit)
    {subscription : Subscription Number}
    (acks : subscription.acks = session.subscription.acks)
    {happened : List Record}
    (silent : ∀ record ∈ happened, record.onAcks? = none) :
    Follows
      { session with
        subscription
        activities := .handler (.answering batch result) :: others
        records := session.records ++ (happened ++ [.handled batch result]) } batching := by
  have same : (happened ++ [Record.handled batch result]).filterMap Record.onAcks? =
      [Batcher.Record.ended batch (.returned result)].filter Batcher.Record.isKept := by
    rw [List.filterMap_append, List.filterMap_eq_nil_iff.mpr silent]
    rfl
  exact ⟨_, .single (.ended (mirrored.split found works) rfl),
    mirrored.grow same (acks.trans mirrored.batcher) (.refl _) rfl rfl rfl rfl⟩

/-- The handler of a batch is at its driver calls. -/
theorem Mirrored.calling
    {batch : List (Entry AckRequest)}
    {calls : Retry.Group AckCall Unit}
    (mirrored : Mirrored session batching)
    (found : session.activities.Perm (.handler (.calling batch calls) :: others))
    (finding : Finding) :
    Follows (session.turn finding others (.handler (.calling batch calls))) batching := by
  have came : ∀ record ∈ cameTo calls.awaited? finding.settled (.settled batch · finding.settled),
      record.onAcks? = none := by
    intro record member
    obtain ⟨place, -, rfl⟩ := mem_cameTo member
    rfl
  generalize stepped : calls.step (fun call => session.subscription.plan call.operation)
    session.subscription.backgroundEnded (session.moment finding) finding.settled = step
  cases step with
  | wait later | «continue» later =>
      have works := mirrored.working found rfl (.calling batch later) rfl [] (by simp) came
      simpa [stepped] using works
  | call place call later =>
      have works := mirrored.working found rfl (.calling batch later) rfl
        [.sendAcks batch place call] (by simp [Effect.IsApart]) came
      simpa [stepped] using works
  | announce event later =>
      have works := mirrored.working found rfl (.calling batch later) rfl [.publish event]
        (by simp [Effect.IsApart]) came
      simpa [stepped] using works
  | finish result =>
      cases result with
      | ok values =>
          simpa [stepped, startedBy] using mirrored.ended found rfl (.ok ()) rfl came
      | error error =>
          have works := mirrored.working found rfl (.failing batch error) rfl
            (Handler.failed session.subscription batch error).effects
            (by
              cases canceled : error.isCanceled <;>
                simp [Handler.failed, Effect.IsApart, canceled])
            came
          simpa [stepped, Handler.failed] using works
  | crash info =>
      simpa [stepped, startedBy] using
        mirrored.ended found rfl (.error .handlerPanicked) rfl came

/-- The failure of a batch is recorded. -/
theorem Mirrored.failing
    {batch : List (Entry AckRequest)}
    {error : Error}
    (mirrored : Mirrored session batching)
    (found : session.activities.Perm (.handler (.failing batch error) :: others))
    (finding : Finding) :
    Follows (session.turn finding others (.handler (.failing batch error))) batching := by
  have failed : ∀ record ∈ [Record.failed batch error], record.onAcks? = none := by simp
  cases canceled : error.isCanceled with
  | true =>
      simpa [Handler.recorded, canceled, startedBy] using
        mirrored.ended found rfl (.error error) rfl failed
  | false =>
      have kept : (session.subscription.recordAckFailure error).acks = session.subscription.acks :=
        rfl
      simpa [Handler.recorded, canceled, startedBy] using
        mirrored.ended found rfl (.error error) kept failed

/-- The items of a batch get their result one by one. After that the handler goes on with another
batch, or ends. -/
theorem Mirrored.answering
    {left : List (Entry AckRequest)}
    {result : Outcome Unit}
    (mirrored : Mirrored session batching)
    (found : session.activities.Perm (.handler (.answering left result) :: others))
    (finding : Finding) :
    Follows (session.turn finding others (.handler (.answering left result))) batching := by
  have sorted := mirrored.split found rfl
  have present := mirrored.batcher
  cases left with
  | cons entry rest =>
      have gave : session.turn finding others (.handler (.answering (entry :: rest) result)) =
          { session with
            subscription :=
              { session.subscription with acks := some (batching.batcher.answer entry.id result) }
            activities := .handler (.answering rest result) :: others } := by
        simp [Handler.answered, present, Batcher.handOver, onAcks, Turn.map, Next.map, startedBy]
      rw [gave]
      exact ⟨_, .single (.gave sorted),
        mirrored.grow onAcks?_nil rfl (.refl _) rfl rfl (by simp) (by simp)⟩
  | nil =>
      rcases Batcher.nextBatch_cases batching.batcher with
        ⟨next, rest, taken, ready, handout, handlers, lingerArmed⟩ | ⟨none, exhausted⟩
      · have went : session.turn finding others (.handler (.answering [] result)) =
            { session with
              subscription := { session.subscription with acks := some rest }
              activities := .handler (.announcing next) :: others
              records := session.records ++ [.tookOver next] } := by
          simp [Handler.answered, present, Batcher.handOver, taken, onAcks, Turn.map, Next.map,
            startedBy]
        have same : [Record.tookOver next].filterMap Record.onAcks? =
            [Batcher.Record.taken next].filter Batcher.Record.isKept := rfl
        rw [went]
        exact ⟨_, .single (.wentOn sorted ready handout handlers lingerArmed),
          mirrored.grow same rfl (.refl _) rfl rfl rfl rfl⟩
      · have stopped : session.turn finding others (.handler (.answering [] result)) =
            { session with
              subscription :=
                { session.subscription with
                  acks := some (Batcher.noteIdle
                    { batching.batcher with handlers := batching.batcher.handlers - 1 }) }
              activities := others } := by
          simp [Handler.answered, present, Batcher.handOver, none, onAcks, Turn.map, Next.map,
            startedBy]
        rw [stopped]
        exact ⟨_, .single (.stopped sorted exhausted),
          mirrored.grow onAcks?_nil rfl (.refl _) rfl rfl (by simp) (by simp)⟩

/-- A turn of the handler of a batch. -/
theorem Mirrored.handler
    {handler : Handler}
    (mirrored : Mirrored session batching)
    (found : session.activities.Perm (.handler handler :: others))
    (finding : Finding) :
    Follows (session.turn finding others (.handler handler)) batching := by
  cases handler with
  | announcing batch => exact mirrored.announcing found finding
  | calling batch calls => exact mirrored.calling found finding
  | failing batch error => exact mirrored.failing found finding
  | answering left result => exact mirrored.answering found finding

/-! ## Timers and shutdowns -/

omit [Scalar Number] in
/-- A turn on the acknowledgments that may hand out batches. -/
theorem Mirrored.handOut {Task Result : Type}
    {after : Session Number}
    {later : Batcher.Session AckRequest}
    (mirrored : Mirrored session batching)
    (turn : Turn (Batcher AckRequest) Task Result (BatchEffect AckRequest))
    {left : List Activity}
    {rest : List (Batcher.Activity AckRequest)}
    (going : (left.filterMap Activity.onAcks?).Perm rest)
    {happened : List Record}
    {shown : List (Batcher.Record AckRequest)}
    (same : happened.filterMap Record.onAcks? = shown.filter Batcher.Record.isKept)
    (acks : after.subscription.acks = some turn.state)
    (activities : after.activities = startedBy (turn.effects.map .batching) ++ left)
    (now : after.now = session.now)
    (records : after.records = session.records ++ happened)
    (batcher : later.batcher = turn.state)
    (working : later.activities = Batcher.startedBy turn.effects ++ rest)
    (sameTime : later.now = batching.now)
    (recorded : later.records = batching.records ++ shown) : Mirrored after later := by
  refine mirrored.grow same (acks.trans (congrArg some batcher.symm)) ?_ sameTime now
    records recorded
  rw [activities, working, List.filterMap_append, filterMap_onAcks?_startedBy]
  exact going.append_left _

/-- A turn of a linger timer. -/
theorem Mirrored.timer
    {wakeAt : Nat}
    (mirrored : Mirrored session batching)
    (found : session.activities.Perm (.timer wakeAt :: others))
    (finding : Finding) :
    Follows (session.turn finding others (.timer wakeAt)) batching := by
  have sameTime : (session.moment finding).now = (batching.moment false).now := mirrored.now.symm
  have turned : session.turn finding others (.timer wakeAt) =
      session.resume others .timer
        (((batching.batcher.lingerStep (batching.moment false) wakeAt).effects.map
          Effect.batching).map .asked)
        (session.subscription.onAcks
          (batching.batcher.lingerStep (batching.moment false) wakeAt)) := by
    rw [Session.turn, lingerStep, mirrored.batcher]
    dsimp only
    rw [Batcher.lingerStep_congr sameTime]
    rfl
  have change := Batcher.change_timer batching false .running (mirrored.split found rfl)
  rw [turned]
  refine ⟨_, .single change, ?_⟩
  refine mirrored.handOut (batching.batcher.lingerStep (batching.moment false) wakeAt) (.of_eq ?_)
    ?_ rfl rfl rfl rfl rfl rfl rfl rfl
  · rw [onAcks, Turn.map]
    cases (batching.batcher.lingerStep (batching.moment false) wakeAt).next <;> rfl
  · rw [filterMap_onAcks?_asked, filter_isKept_takenBy]

omit [Scalar Number] in
/-- A shutdown no longer waits for the acknowledgments. -/
theorem Mirrored.gaveUp
    {context : Nat}
    {flush : Batcher.Flush}
    (mirrored : Mirrored session batching)
    (found : session.activities.Perm (.shutdown context (.flushing flush) :: others)) :
    Follows
      { session with
        subscription := session.subscription.endBackground
        activities := .shutdown context .calling :: others
        records := session.records ++ [.asked .close] } batching := by
  have same : [Record.asked .close].filterMap Record.onAcks? =
      ([] : List (Batcher.Record AckRequest)).filter Batcher.Record.isKept := rfl
  exact ⟨_, .single (.left (mirrored.split found rfl) (.flush flush)),
    mirrored.grow same mirrored.batcher (.refl _) rfl rfl rfl (by simp)⟩

omit [Scalar Number] in
/-- A shutdown takes a turn of its flush. -/
theorem Mirrored.flushed
    {context : Nat}
    {flush : Batcher.Flush}
    (mirrored : Mirrored session batching)
    (found : session.activities.Perm (.shutdown context (.flushing flush) :: others))
    (moment : Moment)
    (sameTime : moment.now = session.now)
    (closing : Closing)
    (going : (Activity.shutdown context closing).onAcks?.toList =
      Batcher.remaining .flush (flush.step moment batching.batcher).next)
    (subscription : Subscription Number)
    (acks : subscription.acks = some (flush.step moment batching.batcher).state)
    (happened : List Record)
    (silent : happened.filterMap Record.onAcks? = []) :
    Follows
      { session with
        subscription
        activities :=
          startedBy ((flush.step moment batching.batcher).effects.map .batching)
            ++ ([.shutdown context closing] ++ others)
        records := session.records
          ++ (((flush.step moment batching.batcher).effects.map Effect.batching).map .asked
            ++ happened) } batching := by
  have sorted := mirrored.split found rfl
  have turned := Batcher.flush_step_congr
    (show moment.now = (batching.moment false).now from sameTime.trans mirrored.now.symm)
    batching.batcher flush
  rw [turned] at going acks ⊢
  refine ⟨_, .single (Batcher.change_flush batching false .running sorted), ?_⟩
  refine mirrored.handOut (flush.step (batching.moment false) batching.batcher) (.of_eq ?_) ?_ acks
    rfl rfl rfl rfl rfl rfl rfl
  · rw [← going]
    cases closing <;> rfl
  · rw [List.filterMap_append, filterMap_onAcks?_asked, silent, List.append_nil,
      List.filter_append, filter_isKept_takenBy]
    unfold Batcher.Flush.records
    split <;> rfl

/-- A turn of a shutdown. -/
theorem Mirrored.shutdown
    {context : Nat}
    {closing : Closing}
    (mirrored : Mirrored session batching)
    (found : session.activities.Perm (.shutdown context closing :: others))
    (finding : Finding) :
    Follows (session.turn finding others (.shutdown context closing)) batching := by
  cases closing with
  | begin =>
      by_cases late : session.subscription.sticky = some .subscriptionShutdown
      · refine Mirrored.follows (mirrored.aside found rfl ?_ ?_ rfl ?_) <;>
          simp [closingStep, Closing.step, closable, beginShutdown, late, closingRecords, startedBy]
      · have sorted := (mirrored.perm found).activities
        have began : Mirrored
            { session with
              subscription := { session.subscription with sticky := some .subscriptionShutdown }
              activities := .shutdown context (.flushing .starting) :: others }
            { batching with activities := .flush .starting :: batching.activities } :=
          mirrored.grow onAcks?_nil mirrored.batcher (sorted.cons _) rfl rfl (by simp) (by simp)
        refine ⟨_, .single (.arrived .flush), ?_⟩
        simpa [closingStep, Closing.step, closable, beginShutdown, late, closingRecords, startedBy]
          using began
  | calling =>
      refine Mirrored.follows (mirrored.aside found rfl ?_ ?_ ?_ ?_)
      all_goals
        cases settled : finding.settled with
        | returned driver =>
            obtain ⟨result, unreported, told⟩ := exists_shutdownResult_eq session.subscription
              (decide (context ∈ session.cancelled)) driver
            simp [closingStep, Closing.step, closable, settled, told, closingRecords, startedBy]
        | _ =>
            simp [closingStep, Closing.step, settled, closingRecords, startedBy,
              List.filterMap_cons]
  | flushing flush =>
      have stepped : flushStep (session.moment finding) session.subscription flush =
          session.subscription.onAcks (flush.step (session.moment finding) batching.batcher) := by
        rw [flushStep, mirrored.batcher]
      by_cases gone : context ∈ session.cancelled ∧ finding.contextFirst = true
      · simpa [closingStep, Closing.step, closable, Closing.endCalls, closingRecords, gone.1,
          gone.2, startedBy] using mirrored.gaveUp found
      · cases next : (flush.step (session.moment finding) batching.batcher).next with
        | done result =>
            have ended := mirrored.flushed found (session.moment finding) rfl .calling
              (by rw [next]; rfl)
              (session.subscription.onAcks
                (flush.step (session.moment finding) batching.batcher)).state.endBackground rfl
              [.asked .close] rfl
            simpa [closingStep, Closing.step, closable, Closing.endCalls, closingRecords, gone,
              stepped, next, onAcks, Turn.map, Next.map, startedBy] using ended
        | «continue» later =>
            have went := mirrored.flushed found (session.moment finding) rfl (.flushing later)
              (by rw [next]; rfl)
              (session.subscription.onAcks
                (flush.step (session.moment finding) batching.batcher)).state rfl [] rfl
            simpa [closingStep, Closing.step, closable, closingRecords, gone, stepped, next, onAcks,
              Turn.map, Next.map, startedBy] using went
        | wait later =>
            have waits := mirrored.flushed found (session.moment finding) rfl (.flushing later)
              (by rw [next]; rfl)
              (session.subscription.onAcks
                (flush.step (session.moment finding) batching.batcher)).state rfl [] rfl
            by_cases cancelled : context ∈ session.cancelled
            · have first : finding.contextFirst = false := by simpa [cancelled] using gone
              have ended := waits.trans fun goesOn => goesOn.gaveUp List.perm_middle
              have sorted := ended.perm List.perm_middle.symm
              simpa [closingStep, Closing.step, closable, Closing.endCalls, closingRecords, first,
                cancelled, stepped, next, onAcks, Turn.map, Next.map, startedBy] using sorted
            · simpa [closingStep, Closing.step, closable, closingRecords, cancelled, stepped, next,
                onAcks, Turn.map, Next.map, startedBy] using waits

/-! ## Moves -/

/-- A turn of any task. -/
theorem Mirrored.turn
    {activity : Activity}
    (mirrored : Mirrored session batching)
    (found : session.activities.Perm (activity :: others))
    (finding : Finding) : Follows (session.turn finding others activity) batching := by
  cases activity with
  | receiver context receiver => exact (mirrored.receiver found finding).follows
  | fetch fetch => exact (mirrored.fetch found finding).follows
  | handler handler => exact mirrored.handler found finding
  | timer wakeAt => exact mirrored.timer found finding
  | shutdown context closing => exact mirrored.shutdown found finding

omit [Scalar Number] in
/-- A request is handed over like an item that is added. -/
theorem Mirrored.request (mirrored : Mirrored session batching) (request : AckRequest) :
    Follows (session.request request) batching := by
  have change := Batcher.change_addNow batching request.byteSize request
  unfold Session.request
  rw [mirrored.batcher]
  dsimp only
  rw [Batcher.Session.addNow] at change
  split
  next => exact mirrored.follows
  next id dispatch accepted =>
    rw [accepted] at change
    have same : Batcher.dispatched (session.moment {}) dispatch (.done () : Next Empty Unit) =
        Batcher.dispatched (batching.moment false) dispatch (.done ()) := by
      rw [Batcher.dispatched, Batcher.dispatched, Session.now_moment, ← mirrored.now]
      rfl
    refine ⟨_, .single change, ?_⟩
    rw [same]
    refine mirrored.handOut
      (Batcher.dispatched (batching.moment false) dispatch (.done () : Next Empty Unit))
      mirrored.activities ?_ rfl rfl rfl rfl rfl rfl rfl rfl
    rw [List.filterMap_cons, List.filter_cons_of_pos rfl, filter_isKept_takenBy]
    exact congrArg (_ :: ·) (filterMap_onAcks?_asked _)

omit [Scalar Number] in
/-- A task that is nothing to the acknowledgments is dropped. -/
theorem Mirrored.gone
    {activity : Activity}
    (mirrored : Mirrored session batching)
    (found : session.activities.Perm (activity :: others))
    (nothing : activity.onAcks? = none) :
    Follows { session with activities := others } batching := by
  refine Mirrored.follows ?_
  exact mirrored.aside found nothing rfl rfl rfl rfl

omit [Scalar Number] in
/-- A caller is dropped, which may be a shutdown that waits for the acknowledgments. -/
theorem Mirrored.left
    {caller : Activity}
    (mirrored : Mirrored session batching)
    (found : session.activities.Perm (caller :: others))
    (leaves : caller.isCaller = true) :
    Follows { session with activities := others } batching := by
  cases caller with
  | receiver context receiver => exact mirrored.gone found rfl
  | shutdown context closing =>
      cases closing with
      | begin => exact mirrored.gone found rfl
      | calling => exact mirrored.gone found rfl
      | flushing flush =>
          exact ⟨_, .single (.left (mirrored.split found rfl) (.flush flush)),
            ⟨mirrored.batcher, .refl _, mirrored.now, mirrored.records⟩⟩
  | _ => contradiction

/-- Every move. -/
theorem Mirrored.step (mirrored : Mirrored session batching) (move : Move) :
    Follows (session.step move) batching := by
  cases move with
  | turn place finding =>
      rw [Session.step]
      split
      next => exact mirrored.follows
      next activity found =>
        obtain ⟨bound, rfl⟩ := List.getElem?_eq_some_iff.mp found
        exact mirrored.turn (List.getElem_cons_eraseIdx_perm bound).symm finding
  | receive context | shutdown context =>
      rw [Session.step, Session.call]
      split
      next => exact mirrored.follows
      next =>
        refine Mirrored.follows ?_
        exact mirrored.congr rfl (.refl _) rfl rfl
  | complete place isAck =>
      rw [Session.step, Session.complete]
      split
      next message found =>
        have kept : Mirrored
            { session with
              messages := session.messages.set place (some (message.complete isAck).2) }
            batching :=
          mirrored.congr rfl (.refl _) rfl rfl
        dsimp only
        split
        next request sent => exact kept.request request
        next => exact kept.follows
      next => exact mirrored.follows
  | discard place =>
      rw [Session.step, Session.discard]
      split
      next message found =>
        refine Mirrored.follows (mirrored.congr rfl (.refl _) rfl
          (filterMap_append_of_eq_none ?_ session.records))
        cases message.isNeglected <;> simp
      next => exact mirrored.follows
  | abandon place =>
      rw [Session.step]
      split
      next => exact mirrored.follows
      next activity found =>
        split
        next leaves =>
          obtain ⟨bound, rfl⟩ := List.getElem?_eq_some_iff.mp found
          exact mirrored.left (List.getElem_cons_eraseIdx_perm bound).symm leaves
        next => exact mirrored.follows
  | drop =>
      rw [Session.step]
      split
      next => exact mirrored.follows
      next =>
        refine Mirrored.follows ?_
        exact mirrored.congr rfl (.refl _) rfl rfl
  | cancel context =>
      refine Mirrored.follows ?_
      exact mirrored.congr rfl (.refl _) rfl rfl
  | elapse nanos =>
      refine ⟨_, .single (.elapsed nanos), ?_⟩
      exact ⟨mirrored.batcher, mirrored.activities, congrArg (· + nanos) mirrored.now,
        mirrored.records⟩

/-- The acknowledgments of a subscription whose messages are delivered at least once go the way of
a batcher, whatever is done to the subscription. -/
theorem exists_mirrored
    {setup : Setup Number}
    (atLeastOnce : setup.atMostOnce = false)
    (moves : List Move) :
    ∃ batching, Batcher.Reached setup.acknowledging batching ∧
      Mirrored (sessionOf setup moves) batching := by
  have first : Mirrored setup.session (Batcher.Session.create setup.acknowledging) := by
    refine ⟨?_, .refl _, rfl, rfl⟩
    simp [Setup.session, Setup.subscription, Subscription.create, atLeastOnce,
      Batcher.Session.create]
  induction moves using List.reverseRecOn with
  | nil => exact ⟨_, .refl, first⟩
  | append_singleton earlier move hypothesis =>
      obtain ⟨batching, reached, mirrored⟩ := hypothesis
      obtain ⟨later, changes, goesOn⟩ := mirrored.step move
      rw [sessionOf_append_singleton]
      exact ⟨later, reached.trans changes, goesOn⟩

end Turns

/-! ## What both sides show -/

@[simp] def Record.accepted? : Record → Option (Entry AckRequest)
  | .accepted entry => some entry
  | _ => none

@[simp] def Record.taken? : Record → Option (List (Entry AckRequest))
  | .asked effect => effect.startedBatch?
  | .tookOver batch => some batch
  | _ => none

@[simp] def Record.handled? : Record → Option (List (Entry AckRequest) × Outcome Unit)
  | .handled batch result => some (batch, result)
  | _ => none

namespace Session

variable (session : Session Number)

/-- The requests that were handed to the acknowledgments, oldest first. -/
@[simp] def accepted : List (Entry AckRequest) := session.records.filterMap Record.accepted?

/-- The batches of acknowledgments, oldest first. -/
@[simp] def taken : List (List (Entry AckRequest)) := session.records.filterMap Record.taken?

/-- The batches of acknowledgments whose handler has come to a result, with that result, oldest
first. -/
@[simp] def handled : List (List (Entry AckRequest) × Outcome Unit) :=
  session.records.filterMap Record.handled?

end Session

namespace Mirrored

variable {session : Session Number} {batching : Batcher.Session AckRequest}
  (mirrored : Mirrored session batching)

include mirrored

/-- What a view of the batcher shows is what the subscription shows of it. -/
theorem filterMap_records {View : Type}
    {view : Batcher.Record AckRequest → Option View}
    {shown : Record → Option View}
    (hidden : ∀ record, record.isKept = false → view record = none)
    (same : ∀ record : Record, record.onAcks?.bind view = shown record) :
    batching.records.filterMap view = session.records.filterMap shown := by
  have kept : batching.records.filterMap view =
      (batching.records.filter Batcher.Record.isKept).filterMap view := by
    rw [List.filterMap_filter]
    congr 1
    funext record
    cases isKept : record.isKept with
    | true => rfl
    | false => exact hidden record isKept
  rw [kept, ← mirrored.records, List.filterMap_filterMap]
  congr 1
  funext record
  exact same record

theorem accepted_eq : batching.accepted = session.accepted := by
  apply mirrored.filterMap_records
  · intro record
    cases record <;> simp
  · intro record
    cases record <;> simp

theorem taken_eq : batching.taken = session.taken := by
  apply mirrored.filterMap_records
  · intro record
    cases record <;> simp
  · intro record
    cases record with
    | asked effect =>
        show (effect.startedBatch?.map _).bind _ = effect.startedBatch?
        cases effect.startedBatch? <;> rfl
    | _ => rfl

theorem ended_eq :
    batching.ended = session.handled.map fun ending => (ending.1, .returned ending.2) := by
  rw [Session.handled, List.map_filterMap]
  apply mirrored.filterMap_records
  · intro record
    cases record <;> simp
  · intro record
    cases record <;> simp

/-- Nobody takes an acknowledgment back. -/
theorem withdrawn_eq : batching.withdrawn = [] := by
  have nothing : session.records.filterMap (fun _ => (none : Option Nat)) = [] := by simp
  rw [← nothing]
  apply mirrored.filterMap_records
  · intro record
    cases record <;> simp
  · intro record
    cases record <;> simp

end Mirrored

/-! ## What holds of the acknowledgments -/

section Acknowledgments

variable [Scalar Number] {setup : Setup Number}

/-- The requests in the batches, in the order in which the batches were formed, and then the
pending ones, are the requests that were handed over, in this order, and no two of them have the
same number. -/
theorem taken_append_pending
    (atLeastOnce : setup.atMostOnce = false)
    (moves : List Move)
    {acks : Batcher AckRequest}
    (present : (sessionOf setup moves).subscription.acks = some acks) :
    (sessionOf setup moves).taken.flatten ++ acks.pending = (sessionOf setup moves).accepted ∧
      ((sessionOf setup moves).accepted.map Entry.id).Nodup := by
  obtain ⟨batching, reached, mirrored⟩ := exists_mirrored atLeastOnce moves
  have conserved := Batcher.conserved_of_reached reached
  obtain rfl : acks = batching.batcher :=
    Option.some.inj (present.symm.trans mirrored.batcher)
  have queue := conserved.queue
  have distinct := conserved.nodup_accepted
  rw [mirrored.accepted_eq] at queue distinct
  rw [mirrored.taken_eq, mirrored.withdrawn_eq] at queue
  exact ⟨by simpa using queue, distinct⟩

end Acknowledgments

end Subscription
end PubSub
