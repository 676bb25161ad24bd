import PubSub.Proofs.Topic.Batching

/-!
# What a move does to a session of a topic

`Change` lists everything that can happen to a session of a topic, with all that is known when it
happens. What happens to the batcher meanwhile is not looked into, because `Session.batching` shows
it: the tasks that a change starts are only said to be new, and the records of the batcher only as
far as a sender or a handler has a part in them. Every move is a change, so whatever survives every
change holds after every list of moves.
-/

namespace PubSub
namespace Topic

/-! ## Tasks that work for the batcher -/

/-- A task that the batcher has just started. -/
inductive Activity.IsStarted : Activity → Prop
  | handler (batch : List (Entry Envelope)) : IsStarted (.handler (.announcing batch))
  | timer (wakeAt : Nat) : IsStarted (.timer wakeAt)

/-- A task that does nothing but what the batcher wants of it. -/
inductive Activity.IsServing : Activity → Prop
  | announcing (batch : List (Entry Envelope)) : IsServing (.handler (.announcing batch))
  | answering (left : List (Entry Envelope)) (result : Outcome Unit) :
      IsServing (.handler (.answering left result))
  | timer (wakeAt : Nat) : IsServing (.timer wakeAt)

theorem Activity.IsStarted.isServing {activity : Activity} (started : activity.IsStarted) :
    activity.IsServing := by
  cases started with
  | handler batch => exact .announcing batch
  | timer wakeAt => exact .timer wakeAt

@[simp] theorem Activity.not_isServing_sender (send : Send) (sender : Sender) :
    ¬ (Activity.sender send sender).IsServing := nofun

@[simp] theorem Activity.not_isServing_shutdown (context : Nat) (closing : Closing) :
    ¬ (Activity.shutdown context closing).IsServing := nofun

@[simp] theorem Activity.not_isServing_calling
    (batch : List (Entry Envelope))
    (phase : Retry.Phase) : ¬ (Activity.handler (.calling batch phase)).IsServing := nofun

/-- A task that does not only serve the batcher was not started for it. -/
theorem mem_of_not_isServing
    {started others : List Activity}
    {activity : Activity}
    (serving : ∀ task ∈ started, task.IsServing)
    (apart : ¬ activity.IsServing)
    (member : activity ∈ started ++ others) : activity ∈ others :=
  (List.mem_append.mp member).resolve_left fun new => apart (serving activity new)

/-- Whether a record of the batcher is about the queue or a flush, and about neither a caller nor
a call of the handler. -/
@[simp] def isMinor : Batcher.Record Envelope → Bool
  | .taken _ => true
  | .withdrawn _ => true
  | .flushed => true
  | _ => false

theorem isStarted_of_mem_startedBy
    {effects : List (BatchEffect Envelope)}
    {activity : Activity}
    (member : activity ∈ startedBy (effects.map .batching)) : activity.IsStarted := by
  obtain ⟨effect, asked, started⟩ := List.mem_filterMap.mp member
  obtain ⟨inner, -, rfl⟩ := List.mem_map.mp asked
  cases inner with
  | startHandler batch => cases started; exact .handler batch
  | startLinger wakeAt => cases started; exact .timer wakeAt

theorem isMinor_of_mem_takenBy
    {effects : List (BatchEffect Envelope)}
    {record : Batcher.Record Envelope}
    (member : record ∈ Batcher.takenBy effects) : isMinor record = true := by
  obtain ⟨effect, -, taken⟩ := List.mem_filterMap.mp member
  cases effect with
  | startHandler batch => cases taken; rfl
  | startLinger wakeAt => contradiction

theorem isMinor_of_mem_withdrawnSince
    {before after : Batcher Envelope}
    {record : Batcher.Record Envelope}
    (member : record ∈ Batcher.withdrawnSince before after) : isMinor record = true := by
  obtain ⟨id, -, rfl⟩ := List.mem_map.mp member
  rfl

/-! ## Changes -/

/-- Why a call is answered before its message is accepted. -/
inductive Rejects (session : Session) (send : Send) : Sender → Error → Prop
  /-- An error of the topic answers it. -/
  | kept {message : Message} {error : Error} (kept : session.topic.sticky = some error) :
      Rejects session send (.sending message) error
  | checked {message : Message} (cancelled : send.context ∈ session.cancelled) :
      Rejects session send (.checking message) .canceled
  | invalid {message : Message} {error : Error} (invalid : message.toEnvelope = .error error) :
      Rejects session send (.checking message) error
  | cancelled {size : Nat} {envelope : Envelope} (cancelled : send.context ∈ session.cancelled) :
      Rejects session send (.adding (.entering size envelope)) .canceled
  | oversized {size : Nat} {envelope : Envelope} :
      Rejects session send (.adding (.entering size envelope))
        (.oversizedItem size session.topic.batcher.options.maxBytes)
  | late {size : Nat} {envelope : Envelope} (down : session.topic.batcher.isShutdown = true) :
      Rejects session send (.adding (.entering size envelope)) .topicShutdown

/-- Why a shutdown goes on to close the driver. -/
inductive Closes (session : Session) (context : Nat) : Batcher.Flush → Prop
  | idle {seen : Nat} (idle : session.topic.batcher.isIdle = true) :
      Closes session context (.looking seen)
  | gaveUp {flush : Batcher.Flush} (cancelled : context ∈ session.cancelled) :
      Closes session context flush

/-- Everything that can happen to a session. -/
inductive Change (session : Session) : Session → Prop
  -- Senders
  | passed {send : Send} {message : Message} {others : List Activity}
      (split : session.activities.Perm (.sender send (.sending message) :: others))
      (untroubled : session.topic.sticky = none) :
      Change session
        { session with activities := .sender send (.checking message) :: others }
  | checked {send : Send} {message : Message} {envelope : Envelope} {others : List Activity}
      (split : session.activities.Perm (.sender send (.checking message) :: others))
      (encoded : message.toEnvelope = .ok envelope) :
      Change session
        { session with
          activities :=
            .sender send (.adding (.entering envelope.byteSize envelope)) :: others }
  | rejected {send : Send} {sender : Sender} {error : Error} {others : List Activity}
      (split : session.activities.Perm (.sender send sender :: others))
      (reason : Rejects session send sender error) :
      Change session
        { session with
          activities := others
          records := session.records ++ [.rejected send error] }
  | entered {send : Send} {size : Nat} {envelope : Envelope} {batcher : Batcher Envelope}
      {started others : List Activity} {happened : List (Batcher.Record Envelope)}
      (split : session.activities.Perm (.sender send (.adding (.entering size envelope)) :: others))
      (new : ∀ activity ∈ started, activity.IsStarted)
      (minor : ∀ record ∈ happened, isMinor record = true) :
      Change session
        { session with
          topic := { session.topic with batcher }
          activities :=
            started ++ .sender send (.adding (.awaiting session.topic.batcher.nextId)) :: others
          records := session.records ++
            (.batching
                (.accepted { id := session.topic.batcher.nextId, item := envelope, size })
              :: happened.map .batching ++ [.entered send session.topic.batcher.nextId]) }
  | returned {send : Send} {id : Nat} {result : Outcome Unit} {batcher : Batcher Envelope}
      {others : List Activity} {happened : List (Batcher.Record Envelope)}
      (split : session.activities.Perm (.sender send (.adding (.awaiting id)) :: others))
      (minor : ∀ record ∈ happened, isMinor record = true) :
      Change session
        { session with
          topic := { session.topic with batcher }
          activities := others
          records := session.records ++
            (happened.map .batching ++
              [.batching (.returned send.context id result),
                .returned send id (senderResult result)]) }
  -- Handlers of batches
  | announced {batch : List (Entry Envelope)} {others : List Activity}
      (split : session.activities.Perm (.handler (.announcing batch) :: others)) :
      Change session
        { session with
          activities := .handler (.calling batch (.starting 0)) :: others
          records := session.records ++
            [.published (dispatchedEvent batch.length), .batching (.called batch)] }
  | sent {batch : List (Entry Envelope)} {failures : Nat} {others : List Activity}
      (split : session.activities.Perm (.handler (.calling batch (.starting failures)) :: others))
      (live : session.topic.backgroundEnded = false) :
      Change session
        { session with
          activities := .handler (.calling batch (.calling failures)) :: others
          records := session.records ++ [.sent batch (batch.map Entry.item)] }
  | retried {batch : List (Entry Envelope)} {failures later wakeAt : Nat} {fault : Fault}
      {event : Event} {others : List Activity}
      (split : session.activities.Perm (.handler (.calling batch (.calling failures)) :: others))
      (live : session.topic.backgroundEnded = false)
      (transient : session.topic.classification.isRetryable fault = true)
      (scheduled : event.kind = .retryScheduled) :
      Change session
        { session with
          activities := .handler (.calling batch (.pausing later wakeAt)) :: others
          records := session.records ++
            [.answered batch (.returned (.error fault)), .published event] }
  | resumed {batch : List (Entry Envelope)} {failures wakeAt : Nat} {others : List Activity}
      (split : session.activities.Perm
        (.handler (.calling batch (.pausing failures wakeAt)) :: others)) :
      Change session
        { session with activities := .handler (.calling batch (.starting failures)) :: others }
  | succeeded {batch : List (Entry Envelope)} {failures : Nat} {others : List Activity}
      (split : session.activities.Perm (.handler (.calling batch (.calling failures)) :: others)) :
      Change session
        { session with
          activities := .handler (.answering batch (.ok ())) :: others
          records := session.records ++
            [.answered batch (.returned (.ok ())), .batching (.ended batch (.returned (.ok ())))] }
  | failed {batch : List (Entry Envelope)} {failures : Nat} {fault : Fault} {error : Error}
      {others : List Activity}
      (split : session.activities.Perm (.handler (.calling batch (.calling failures)) :: others))
      (live : session.topic.backgroundEnded = false)
      (permanent : session.topic.classification.isRetryable fault = false)
      (same : error = .driver (session.topic.classification.codeOf fault) fault) :
      Change session
        { session with
          topic := { session.topic with sticky := session.topic.sticky.or (some error) }
          activities := .handler (.answering batch (.error error)) :: others
          records := session.records ++
            [.answered batch (.returned (.error fault)),
              .published (failedEvent batch.length error),
              .batching (.ended batch (.returned (.error error)))] }
  /-- The context of the driver calls has ended. -/
  | aborted {batch : List (Entry Envelope)} {phase : Retry.Phase} {others : List Activity}
      (split : session.activities.Perm (.handler (.calling batch phase) :: others))
      (expired : session.topic.backgroundEnded = true) :
      Change session
        { session with
          activities := .handler (.answering batch (.error .canceled)) :: others
          records := session.records ++
            [.published (failedEvent batch.length .canceled),
              .batching (.ended batch (.returned (.error .canceled)))] }
  /-- The same, and the driver call has failed at last. -/
  | overruled {batch : List (Entry Envelope)} {failures : Nat} {fault : Fault}
      {others : List Activity}
      (split : session.activities.Perm (.handler (.calling batch (.calling failures)) :: others))
      (expired : session.topic.backgroundEnded = true) :
      Change session
        { session with
          activities := .handler (.answering batch (.error .canceled)) :: others
          records := session.records ++
            [.answered batch (.returned (.error fault)),
              .published (failedEvent batch.length .canceled),
              .batching (.ended batch (.returned (.error .canceled)))] }
  | crashed {batch : List (Entry Envelope)} {failures : Nat} {answer : Answer (Except Fault Unit)}
      {others : List Activity}
      (split : session.activities.Perm (.handler (.calling batch (.calling failures)) :: others))
      (reason : (∃ info, answer = .panicked info) ∨
        ∃ fault, answer = .returned (.error fault) ∧
          session.topic.classification.isRetryable fault = true) :
      Change session
        { session with
          activities := .handler (.answering batch (.error .handlerPanicked)) :: others
          records := session.records ++
            [.answered batch answer,
              .batching (.ended batch (.returned (.error .handlerPanicked)))] }
  /-- A task works for the batcher, and may start others. -/
  | served {activity : Activity} {batcher : Batcher Envelope} {later others : List Activity}
      {happened : List (Batcher.Record Envelope)}
      (split : session.activities.Perm (activity :: others))
      (serving : activity.IsServing)
      (laterServing : ∀ other ∈ later, other.IsServing)
      (minor : ∀ record ∈ happened, isMinor record = true) :
      Change session
        { session with
          topic := { session.topic with batcher }
          activities := later ++ others
          records := session.records ++ happened.map .batching }
  -- Shutdowns
  | began {context : Nat} {others : List Activity}
      (split : session.activities.Perm (.shutdown context .begin :: others))
      (first : session.topic.sticky ≠ some .topicShutdown) :
      Change session
        { session with
          topic := { session.topic with sticky := some .topicShutdown }
          activities := .shutdown context (.flushing .starting) :: others
          records := session.records ++ [.began context] }
  | refused {context : Nat} {others : List Activity}
      (split : session.activities.Perm (.shutdown context .begin :: others))
      (ending : session.topic.sticky = some .topicShutdown) :
      Change session
        { session with
          activities := others
          records := session.records ++ [.refused context .topicShutdown] }
  | flushed {context : Nat} {flush later : Batcher.Flush} {batcher : Batcher Envelope}
      {started others : List Activity} {happened : List (Batcher.Record Envelope)}
      (split : session.activities.Perm (.shutdown context (.flushing flush) :: others))
      (begun : later ≠ .starting)
      (new : ∀ activity ∈ started, activity.IsStarted)
      (minor : ∀ record ∈ happened, isMinor record = true) :
      Change session
        { session with
          topic := { session.topic with batcher }
          activities := started ++ .shutdown context (.flushing later) :: others
          records := session.records ++ happened.map .batching }
  | ended {context : Nat} {flush : Batcher.Flush} {others : List Activity}
      {happened : List (Batcher.Record Envelope)}
      (split : session.activities.Perm (.shutdown context (.flushing flush) :: others))
      (begun : flush ≠ .starting)
      (reason : Closes session context flush)
      (minor : ∀ record ∈ happened, isMinor record = true) :
      Change session
        { session with
          topic := session.topic.endBackground
          activities := .shutdown context .calling :: others
          records := session.records ++ (happened.map .batching ++ [.closing]) }
  /-- A shutdown whose context is cancelled does not flush the batcher at all. -/
  | skipped {context : Nat} {others : List Activity}
      (split : session.activities.Perm (.shutdown context (.flushing .starting) :: others))
      (cancelled : context ∈ session.cancelled) :
      Change session
        { session with
          topic := session.topic.endBackground
          activities := .shutdown context .calling :: others
          records := session.records ++ [.skipped context, .closing] }
  | closed {context : Nat} {driver : Except Fault Unit} {result : Outcome Unit}
      {others : List Activity}
      (split : session.activities.Perm (.shutdown context .calling :: others)) :
      Change session
        { session with
          activities := others
          records := session.records ++
            [.closed context driver result, .published (shutdownEvent result)] }
  -- Everything else
  | called {context : Nat} {message : Message} (held : session.dropped = false) :
      Change session
        { session with
          activities :=
            .sender { number := session.sends, context, message } (.sending message)
              :: session.activities
          sends := session.sends + 1 }
  | arrived {context : Nat} (held : session.dropped = false) :
      Change session { session with activities := .shutdown context .begin :: session.activities }
  | left {activity : Activity} {others : List Activity}
      (split : session.activities.Perm (activity :: others))
      (caller : activity.isCaller = true) :
      Change session { session with activities := others }
  | reordered {activities : List Activity} (same : session.activities.Perm activities) :
      Change session { session with activities }
  | cancelled (context : Nat) :
      Change session { session with cancelled := context :: session.cancelled }
  | elapsed (nanos : Nat) : Change session { session with now := session.now + nanos }
  | dropped (nobody : session.activities.any Activity.isCaller = false) :
      Change session { session with topic := session.topic.endBackground, dropped := true }

/-! ## Every turn is a change -/

section Turns

variable (session : Session) (finding : Finding) {others : List Activity}

attribute [local simp] Session.turn Session.resume onBatcher Turn.map Next.map Next.tasks

omit finding in
/-- Why a batcher does not accept a message, and what its sender is told. -/
theorem Session.exists_rejects_of_accept
    (send : Send)
    {size : Nat}
    {envelope : Envelope}
    {error : Error}
    (refused : session.topic.batcher.accept size envelope = .error error) :
    ∃ told, senderResult (.error error) = .error told ∧
      Rejects session send (.adding (.entering size envelope)) told := by
  unfold Batcher.accept at refused
  split at refused
  next =>
    cases refused
    exact ⟨_, rfl, .oversized⟩
  next =>
    split at refused
    next down =>
      cases refused
      exact ⟨_, rfl, .late down⟩
    next => contradiction

/-- A sender that hands over its message. -/
theorem change_entering
    {send : Send}
    {size : Nat}
    {envelope : Envelope}
    (split : session.activities.Perm (.sender send (.adding (.entering size envelope)) :: others)) :
    Change session
      (session.turn finding others (.sender send (.adding (.entering size envelope)))) := by
  by_cases cancelled : send.context ∈ session.cancelled
  · simpa [Sender.step, Batcher.Adding.step, cancelled, Sender.onBatcher, Sender.adding?,
      Batcher.Adding.records, Sender.records, senderResult] using
      Change.rejected split (.cancelled cancelled)
  · cases accepted : session.topic.batcher.accept size envelope with
    | error error =>
        obtain ⟨told, same, reason⟩ := session.exists_rejects_of_accept send accepted
        simpa [Sender.step, Batcher.Adding.step, cancelled, accepted, Sender.onBatcher,
          Sender.adding?, Batcher.Adding.records, Sender.records, same] using
          Change.rejected split reason
    | ok entry =>
        obtain ⟨id, dispatch⟩ := entry
        obtain ⟨rfl, -, -⟩ := Batcher.accept_eq_ok accepted
        have entered := @Change.entered session send size envelope dispatch.batcher _ _ _ split
          (@isStarted_of_mem_startedBy (dispatch.effects session.now))
          (@isMinor_of_mem_takenBy (dispatch.effects session.now))
        simpa [Sender.step, Batcher.Adding.step, cancelled, accepted, Sender.onBatcher,
          Sender.adding?, Batcher.Adding.records, Sender.records, Batcher.dispatched] using entered

/-- A sender that waits for the result of its message. -/
theorem change_awaiting
    {send : Send}
    {id : Nat}
    (split : session.activities.Perm (.sender send (.adding (.awaiting id)) :: others)) :
    Change session
      (session.turn finding others (.sender send (.adding (.awaiting id)))) := by
  have answered {result : Outcome Unit} :=
    @Change.returned session send id result session.topic.batcher _ [] split (by simp)
  have gaveUp := @Change.returned session send id (.error .canceled)
    (session.topic.batcher.withdraw id) _ _ split
    (@isMinor_of_mem_withdrawnSince session.topic.batcher (session.topic.batcher.withdraw id))
  simp only [Session.turn, Sender.step, Sender.onBatcher, Sender.adding?, Batcher.Adding.step,
    Batcher.awaitAnswer]
  split
  next =>
    simpa [Batcher.giveUp, Turn.mapTask, Batcher.Adding.records, Sender.records] using
      gaveUp
  next =>
    split
    next result found =>
      simpa [Turn.mapTask, Batcher.Adding.records, Batcher.withdrawnSince_self,
        Sender.records] using answered
    next =>
      split
      next withdrawn =>
        simpa [Turn.mapTask, Batcher.Adding.records, Batcher.withdrawnSince_self,
          Sender.records] using answered
      next =>
        split
        next =>
          simpa [Batcher.giveUp, Turn.mapTask, Batcher.Adding.records, Sender.records] using
            gaveUp
        next =>
          simpa [Turn.mapTask, Batcher.Adding.records, Sender.records] using Change.reordered split

/-- A turn of a sender. -/
theorem change_sender
    {send : Send}
    {sender : Sender}
    (split : session.activities.Perm (.sender send sender :: others)) :
    Change session (session.turn finding others (.sender send sender)) := by
  cases sender with
  | sending message =>
      cases sticky : session.topic.sticky with
      | none =>
          simpa [Sender.step, sticky, Sender.onBatcher, Sender.adding?, Sender.records] using
            Change.passed split sticky
      | some error =>
          simpa [Sender.step, sticky, Sender.onBatcher, Sender.adding?, Sender.records] using
            Change.rejected split (.kept sticky)
  | checking message =>
      by_cases cancelled : send.context ∈ session.cancelled
      · simpa [Sender.step, cancelled, Sender.onBatcher, Sender.adding?, Sender.records] using
          Change.rejected split (.checked cancelled)
      · cases encoded : message.toEnvelope with
        | error error =>
            simpa [Sender.step, cancelled, encoded, Sender.onBatcher, Sender.adding?,
              Sender.records] using Change.rejected split (.invalid encoded)
        | ok envelope =>
            simpa [Sender.step, cancelled, encoded, Sender.onBatcher, Sender.adding?,
              Sender.records] using Change.checked split encoded
  | adding task =>
      cases task with
      | entering size envelope => exact change_entering session finding split
      | awaiting id => exact change_awaiting session finding split

attribute [local simp] Handler.step Handler.heard Handler.onBatcher Effect.record?
  Handler.handling Batcher.Handling.batch

theorem recordFailure_driver (topic : Topic) (code : ErrorCode) (fault : Fault) :
    topic.recordFailure (.driver code fault) =
      { topic with sticky := topic.sticky.or (some (.driver code fault)) } := by
  obtain ⟨batcher, sticky, retry, classification, backgroundEnded⟩ := topic
  cases sticky <;> rfl

/-- The driver call of a batch has failed. -/
theorem change_faulted
    {batch : List (Entry Envelope)}
    {failures : Nat}
    {fault : Fault}
    (split : session.activities.Perm (.handler (.calling batch (.calling failures)) :: others))
    (settled : finding.settled = .returned (.error fault)) :
    Change session
      (session.turn finding others (.handler (.calling batch (.calling failures)))) := by
  cases expired : session.topic.backgroundEnded with
  | true =>
      simpa [Retry.Phase.step, settled, Retry.afterFault, expired, Handler.failed] using
        @Change.overruled session batch failures fault others split expired
  | false =>
      cases transient : session.topic.classification.isRetryable fault with
      | false =>
          simpa [Retry.Phase.step, settled, Retry.afterFault, expired, plan, transient,
            Handler.failed, recordFailure_driver] using Change.failed split expired transient rfl
      | true =>
          cases delays : session.topic.retry.next? failures with
          | none =>
              have reason := @Change.crashed session batch failures (.returned (.error fault))
                others split (.inr ⟨fault, rfl, transient⟩)
              simpa [Retry.Phase.step, settled, Retry.afterFault, expired, plan, transient, delays]
                using reason
          | some delays =>
              simpa [Retry.Phase.step, settled, Retry.afterFault, expired, plan, transient, delays,
                Retry.pause] using Change.retried split expired transient rfl

/-- The handler of a batch is at its driver call. -/
theorem change_calling
    {batch : List (Entry Envelope)}
    {phase : Retry.Phase}
    (split : session.activities.Perm (.handler (.calling batch phase) :: others)) :
    Change session (session.turn finding others (.handler (.calling batch phase))) := by
  have aborted (expired : session.topic.backgroundEnded = true) := Change.aborted split expired
  cases phase with
  | starting failures =>
      cases expired : session.topic.backgroundEnded with
      | true =>
          simpa [Retry.Phase.step, expired, Handler.failed] using aborted expired
      | false => simpa [Retry.Phase.step, expired] using Change.sent split expired
  | pausing failures wakeAt =>
      cases expired : session.topic.backgroundEnded with
      | true =>
          simpa [Retry.Phase.step, expired, Handler.failed] using aborted expired
      | false => 
          by_cases due : wakeAt ≤ session.now
          · simpa [Retry.Phase.step, expired, due] using Change.resumed split
          · simpa [Retry.Phase.step, expired, due] using Change.reordered split
  | calling failures =>
      cases settled : finding.settled with
      | running =>
          cases expired : session.topic.backgroundEnded with
          | true =>
              simpa [Retry.Phase.step, settled, expired, Handler.failed] using aborted expired
          | false => simpa [Retry.Phase.step, settled, expired] using Change.reordered split
      | panicked info =>
          simpa [Retry.Phase.step, settled] using
            @Change.crashed session batch failures (.panicked info) others split (.inl ⟨info, rfl⟩)
      | returned result =>
          cases result with
          | ok value => simpa [Retry.Phase.step, settled] using Change.succeeded split
          | error fault => simpa [settled] using change_faulted session finding split settled

/-- The handler of a batch answers the senders, and then works for the batcher. -/
theorem change_answering
    {left : List (Entry Envelope)}
    {result : Outcome Unit}
    (split : session.activities.Perm (.handler (.answering left result) :: others)) :
    Change session (session.turn finding others (.handler (.answering left result))) := by
  cases left with
  | cons entry rest =>
      have gave := @Change.served session _ (session.topic.batcher.answer entry.id result)
        [.handler (.answering rest result)] others [] split (.answering ..)
        (by simpa using .answering rest result) (by simp)
      simpa [Batcher.handOver] using gave
  | nil =>
      cases next : session.topic.batcher.nextBatch with
      | mk batch after =>
          cases batch with
          | none =>
              have stopped := @Change.served session _ after [] others [] split (.answering ..)
                (by simp) (by simp)
              simpa [Batcher.handOver, next] using stopped
          | some batch =>
              have wentOn := @Change.served session _ after [.handler (.announcing batch)] others
                [.taken batch] split (.answering ..) (by simpa using .announcing batch) (by simp)
              simpa [Batcher.handOver, next] using wentOn

/-- A turn of the handler of a batch. -/
theorem change_handler
    {handler : Handler}
    (split : session.activities.Perm (.handler handler :: others)) :
    Change session (session.turn finding others (.handler handler)) := by
  cases handler with
  | announcing batch => simpa using Change.announced split
  | calling batch phase => exact change_calling session finding split
  | answering left result => exact change_answering session finding split

/-- A turn of a linger timer. -/
theorem change_timer
    {wakeAt : Nat}
    (split : session.activities.Perm (.timer wakeAt :: others)) :
    Change session (session.turn finding others (.timer wakeAt)) := by
  by_cases early : session.now < wakeAt
  · simpa [lingerStep, Batcher.lingerStep, early] using Change.reordered split
  · have rang := @Change.served session _ session.topic.batcher.lingerEnded.batcher
      (startedBy ((session.topic.batcher.lingerEnded.effects session.now).map .batching)) others
      (Batcher.takenBy (session.topic.batcher.lingerEnded.effects session.now)) split
      (.timer wakeAt)
      (fun _ member => (isStarted_of_mem_startedBy member).isServing)
      (fun _ => isMinor_of_mem_takenBy)
    simpa [lingerStep, Batcher.lingerStep, early, Batcher.dispatched] using rang

attribute [local simp] closingStep Closing.step closable Closing.endCalls flushRecords
  closingRecords Batcher.Flush.step Batcher.Flush.records

/-- A shutdown that has begun to flush the batcher. -/
theorem change_flushing
    {context : Nat}
    {flush : Batcher.Flush}
    (split : session.activities.Perm (.shutdown context (.flushing flush) :: others)) :
    Change session (session.turn finding others (.shutdown context (.flushing flush))) := by
  have goesOn (later : Batcher.Flush) (begun : later ≠ .starting) :=
    @Change.flushed session context flush later session.topic.batcher [] others [] split begun
      (by simp) (by simp)
  have gaveUp (begun : flush ≠ .starting) (cancelled : context ∈ session.cancelled) :=
    @Change.ended session context flush others [] split begun (.gaveUp cancelled) (by simp)
  by_cases gone : context ∈ session.cancelled ∧ finding.contextFirst = true
  · cases flush with
    | starting => simpa [gone.1, gone.2] using Change.skipped split gone.1
    | _ => simpa [gone.1, gone.2] using gaveUp (by simp) gone.1
  · cases flush with
    | starting =>
        have began := @Change.flushed session context .starting .listening
          session.topic.batcher.shutdown.batcher
          (startedBy ((session.topic.batcher.shutdown.effects session.now).map .batching)) others
          (Batcher.takenBy (session.topic.batcher.shutdown.effects session.now)) split (by simp)
          (fun _ => isStarted_of_mem_startedBy) (fun _ => isMinor_of_mem_takenBy)
        simpa [gone, Batcher.dispatched] using began
    | listening => simpa [gone] using goesOn (.looking session.topic.batcher.idleNotices) (by simp)
    | looking seen =>
        cases idle : session.topic.batcher.isIdle with
        | true =>
            simpa [gone, idle] using
              @Change.ended session context _ others [.flushed] split (by simp) (.idle idle)
                (by simp)
        | false =>
            by_cases cancelled : context ∈ session.cancelled
            · have later : finding.contextFirst = false := by simpa [cancelled] using gone
              simpa [cancelled, later, idle] using gaveUp (by simp) cancelled
            · simpa [cancelled, idle] using goesOn (.waiting seen) (by simp)
    | waiting seen =>
        by_cases noticed : session.topic.batcher.idleNotices = seen
        · by_cases cancelled : context ∈ session.cancelled
          · have later : finding.contextFirst = false := by simpa [cancelled] using gone
            simpa [cancelled, later, noticed] using gaveUp (by simp) cancelled
          · simpa [cancelled, noticed] using goesOn (.waiting seen) (by simp)
        · simpa [gone, noticed] using goesOn .listening (by simp)

/-- A turn of a shutdown. -/
theorem change_shutdown
    {context : Nat}
    {closing : Closing}
    (split : session.activities.Perm (.shutdown context closing :: others)) :
    Change session (session.turn finding others (.shutdown context closing)) := by
  cases closing with
  | begin =>
      by_cases late : session.topic.sticky = some .topicShutdown
      · simpa [beginShutdown, late] using Change.refused split late
      · simpa [beginShutdown, late] using Change.began split late
  | flushing flush => exact change_flushing session finding split
  | calling =>
      cases settled : finding.settled with
      | running => simpa [settled] using Change.reordered split
      | panicked info => simpa [settled] using Change.left split rfl
      | returned driver => simpa [settled] using Change.closed split

/-- A turn of any task is a change. -/
theorem change_turn
    {activity : Activity}
    (split : session.activities.Perm (activity :: others)) :
    Change session (session.turn finding others activity) := by
  cases activity with
  | sender send sender => exact change_sender session finding split
  | handler handler => exact change_handler session finding split
  | timer wakeAt => exact change_timer session finding split
  | shutdown context closing => exact change_shutdown session finding split

end Turns

/-! ## Every move is a change -/

theorem change_step (session : Session) (move : Move) : Change session (session.step move) := by
  have unchanged : Change session session := .reordered (.refl _)
  cases move with
  | send context message =>
      cases held : session.dropped with
      | true => simpa [Session.step, held] using unchanged
      | false => simpa [Session.step, held] using Change.called held
  | shutdown context =>
      cases held : session.dropped with
      | true => simpa [Session.step, held] using unchanged
      | false => simpa [Session.step, held] using Change.arrived held
  | cancel context => exact .cancelled context
  | abandon place =>
      rw [Session.step]
      split
      next => exact unchanged
      next activity found =>
        split
        next caller => exact .left (perm_eraseIdx found) caller
        next => exact unchanged
  | drop =>
      rw [Session.step]
      split
      next => exact unchanged
      next nobody => exact .dropped (by simpa using nobody)
  | elapse nanos => exact .elapsed nanos
  | turn place finding =>
      rw [Session.step]
      split
      next => exact unchanged
      next activity found => exact change_turn session finding (perm_eraseIdx found)

theorem sessionOf_append_singleton (setup : Setup) (moves : List Move) (move : Move) :
    sessionOf setup (moves ++ [move]) = (sessionOf setup moves).step move :=
  List.foldl_append

/-- What holds at first and survives every change of a session holds of every session. -/
theorem sessionOf_induction
    {holds : Session → Prop}
    {setup : Setup}
    (first : holds setup.session)
    (next : ∀ {earlier : List Move} {after : Session},
      Change (sessionOf setup earlier) after → holds (sessionOf setup earlier) → holds after)
    (moves : List Move) : holds (sessionOf setup moves) := by
  induction moves using List.reverseRecOn with
  | nil => exact first
  | append_singleton earlier move hypothesis =>
      rw [sessionOf_append_singleton]
      exact next (change_step _ move) hypothesis

end Topic
end PubSub
