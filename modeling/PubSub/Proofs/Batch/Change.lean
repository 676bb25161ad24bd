import Mathlib.Data.List.Induction
import Mathlib.Data.List.Perm.Basic
import PubSub.Proofs.Batch.Operations
import PubSub.Proofs.Batch.Session

/-!
# What a move does to a session

`Change` lists everything that can happen to a session, with all that is known when it
happens and with the operations of the batcher replaced by what they do. Every move is
a change, so whatever survives every change holds after every list of moves.
-/

namespace PubSub
namespace Batcher

variable {Item : Type}

/-- A task that somebody has just started. -/
inductive Activity.IsFresh : Activity Item → Prop
  | caller (context size : Nat) (item : Item) : IsFresh (.caller context (.entering size item))
  | flush : IsFresh (.flush .starting)

/-- A task that may vanish, because it ends without a trace or because it is dropped. -/
inductive Activity.MayLeave : Activity Item → Prop
  | caller (context : Nat) (adding : Adding Item) : MayLeave (.caller context adding)
  | flush (flush : Flush) : MayLeave (.flush flush)

/-- The tasks that a step starts when it hands out batches at a time. -/
def Dispatch.activities (dispatch : Dispatch Item) (now : Nat) : List (Activity Item) :=
  dispatch.started.map (fun batch => .handler (.starting batch))
    ++ if dispatch.armed then [.timer (now + dispatch.batcher.options.linger.nanos)] else []

@[simp] theorem mem_activities
    {dispatch : Dispatch Item}
    {now : Nat}
    {activity : Activity Item} :
    activity ∈ Dispatch.activities dispatch now ↔
      (∃ batch ∈ dispatch.started, .handler (.starting batch) = activity) ∨
        (dispatch.armed = true ∧
          activity = .timer (now + dispatch.batcher.options.linger.nanos)) := by
  unfold Dispatch.activities
  cases dispatch.armed <;> simp

/-- The session after batches were handed out. -/
def Session.handOut (session : Session Item) (dispatch : Dispatch Item) : Session Item :=
  { session with
    batcher := dispatch.batcher
    activities := Dispatch.activities dispatch session.now ++ session.activities
    records := session.records ++ dispatch.started.map .taken }

namespace Session

variable (session : Session Item) (dispatch : Dispatch Item)

@[simp] theorem batcher_handOut : (session.handOut dispatch).batcher = dispatch.batcher := rfl

@[simp] theorem activities_handOut :
    (session.handOut dispatch).activities =
      Dispatch.activities dispatch session.now ++ session.activities := rfl

@[simp] theorem records_handOut :
    (session.handOut dispatch).records =
      session.records ++ dispatch.started.map .taken := rfl

end Session

/-- A batcher with one more item. -/
def enqueued (batcher : Batcher Item) (entry : Entry Item) : Batcher Item :=
  { batcher with
    pending := batcher.pending ++ [entry]
    pendingBytes := batcher.pendingBytes + entry.size
    nextId := batcher.nextId + 1 }

/-- A batcher without a pending item that was taken back, and without some bytes. -/
def without (batcher : Batcher Item) (id size : Nat) : Batcher Item :=
  { batcher with
    pending := batcher.pending.eraseP (·.id == id)
    pendingBytes := batcher.pendingBytes - size
    withdrawn := id :: batcher.withdrawn }

/-- Why a caller that waits for an item is answered with a result and leaves the batcher
alone. -/
inductive Returns (session : Session Item) (context id : Nat) : Outcome Unit → Prop
  | given {result : Outcome Unit} (given : (id, result) ∈ session.batcher.answers) :
      Returns session context id result
  | lost (withdrawn : id ∈ session.batcher.withdrawn) :
      Returns session context id (.error .batcherShutdown)
  | gaveUp
      (cancelled : context ∈ session.cancelled)
      (absent : ∀ entry ∈ session.batcher.pending, entry.id ≠ id) :
      Returns session context id (.error .canceled)

/-- What comes before batches are handed out, and whether the items have lingered then. -/
inductive Opening (session : Session Item) : Session Item → Bool → Prop
  | accepted
      {context : Nat}
      {entry : Entry Item}
      {others : List (Activity Item)}
      (split : session.activities.Perm (.caller context (.entering entry.size entry.item) :: others))
      (numbered : entry.id = session.batcher.nextId)
      (running : session.batcher.isShutdown = false)
      (fitting : session.batcher.options.maxBytes = 0 ∨
        entry.size ≤ session.batcher.options.maxBytes) :
      Opening session
        { session with
          batcher := session.batcher.enqueued entry
          activities := .caller context (.awaiting entry.id) :: others
          records := session.records ++ [.accepted entry] }
        false
  | acceptedAlone
      {entry : Entry Item}
      (numbered : entry.id = session.batcher.nextId)
      (running : session.batcher.isShutdown = false)
      (fitting : session.batcher.options.maxBytes = 0 ∨
        entry.size ≤ session.batcher.options.maxBytes) :
      Opening session
        { session with
          batcher := session.batcher.enqueued entry
          records := session.records ++ [.accepted entry] }
        false
  | rang
      {wakeAt : Nat}
      {others : List (Activity Item)}
      (split : session.activities.Perm (.timer wakeAt :: others))
      (due : wakeAt ≤ session.now) :
      Opening session
        { session with
          batcher := { session.batcher with lingerArmed := false }
          activities := others }
        true
  | flushBegan
      {others : List (Activity Item)}
      (split : session.activities.Perm (.flush .starting :: others)) :
      Opening session
        { session with
          batcher := { session.batcher with isShutdown := true }
          activities := .flush .listening :: others }
        true

/-- Everything that can happen to a session. -/
inductive Change (session : Session Item) : Session Item → Prop
  | handedOut
      {middle : Session Item}
      {lingered : Bool}
      {dispatch : Dispatch Item}
      (opening : Opening session middle lingered)
      (dispatched : Dispatched middle.batcher lingered dispatch) :
      Change session (middle.handOut dispatch)
  | arrived {activity : Activity Item} (fresh : activity.IsFresh) :
      Change session { session with activities := activity :: session.activities }
  | left
      {activity : Activity Item}
      {others : List (Activity Item)}
      (split : session.activities.Perm (activity :: others))
      (leaves : activity.MayLeave) :
      Change session { session with activities := others }
  | reordered {activities : List (Activity Item)} (same : session.activities.Perm activities) :
      Change session { session with activities }
  | cancelled (context : Nat) :
      Change session { session with cancelled := context :: session.cancelled }
  | elapsed (nanos : Nat) : Change session { session with now := session.now + nanos }
  | returned
      {context id : Nat}
      {result : Outcome Unit}
      {others : List (Activity Item)}
      (split : session.activities.Perm (.caller context (.awaiting id) :: others))
      (reason : Returns session context id result) :
      Change session
        { session with
          activities := others
          records := session.records ++ [.returned context id result] }
  | withdrew
      {context id size : Nat}
      {others : List (Activity Item)}
      (split : session.activities.Perm (.caller context (.awaiting id) :: others))
      (cancelled : context ∈ session.cancelled)
      (present : ∃ entry ∈ session.batcher.pending, entry.id = id)
      (weighed : size + bytesOf (session.batcher.pending.eraseP (·.id == id)) =
        bytesOf session.batcher.pending) :
      Change session
        { session with
          batcher := noteIdle (session.batcher.without id size)
          activities := others
          records := session.records ++ [.withdrawn id, .returned context id (.error .canceled)] }
  | called
      {batch : List (Entry Item)}
      {others : List (Activity Item)}
      (split : session.activities.Perm (.handler (.starting batch) :: others)) :
      Change session
        { session with
          activities := .handler (.working batch) :: others
          records := session.records ++ [.called batch] }
  | ended
      {batch : List (Entry Item)}
      {answer : Answer (Outcome Unit)}
      {result : Outcome Unit}
      {others : List (Activity Item)}
      (split : session.activities.Perm (.handler (.working batch) :: others))
      (outcome : resultOf? answer = some result) :
      Change session
        { session with
          activities := .handler (.answering batch result) :: others
          records := session.records ++ [.ended batch answer] }
  | gave
      {entry : Entry Item}
      {rest : List (Entry Item)}
      {result : Outcome Unit}
      {others : List (Activity Item)}
      (split : session.activities.Perm (.handler (.answering (entry :: rest) result) :: others)) :
      Change session
        { session with
          batcher := session.batcher.answer entry.id result
          activities := .handler (.answering rest result) :: others }
  | wentOn
      {result : Outcome Unit}
      {next : List (Entry Item)}
      {after : Batcher Item}
      {others : List (Activity Item)}
      (split : session.activities.Perm (.handler (.answering [] result) :: others))
      (ready : session.batcher.isReady true = true)
      (handout : Handout session.batcher [next] after)
      (handlers : after.handlers = session.batcher.handlers)
      (lingerArmed : after.lingerArmed = session.batcher.lingerArmed) :
      Change session
        { session with
          batcher := after
          activities := .handler (.starting next) :: others
          records := session.records ++ [.taken next] }
  | stopped
      {result : Outcome Unit}
      {others : List (Activity Item)}
      (split : session.activities.Perm (.handler (.answering [] result) :: others))
      (exhausted : session.batcher.isReady true = false) :
      Change session
        { session with
          batcher :=
            noteIdle { session.batcher with handlers := session.batcher.handlers - 1 }
          activities := others }
  | listened
      {others : List (Activity Item)}
      (split : session.activities.Perm (.flush .listening :: others)) :
      Change session
        { session with
          activities := .flush (.looking session.batcher.idleNotices) :: others }
  | looked
      {seen : Nat}
      {others : List (Activity Item)}
      (split : session.activities.Perm (.flush (.looking seen) :: others))
      (busy : session.batcher.isIdle = false) :
      Change session { session with activities := .flush (.waiting seen) :: others }
  | woke
      {seen : Nat}
      {others : List (Activity Item)}
      (split : session.activities.Perm (.flush (.waiting seen) :: others))
      (noticed : session.batcher.idleNotices ≠ seen) :
      Change session { session with activities := .flush .listening :: others }
  | flushed
      {seen : Nat}
      {others : List (Activity Item)}
      (split : session.activities.Perm (.flush (.looking seen) :: others))
      (idle : session.batcher.isIdle = true) :
      Change session
        { session with activities := others, records := session.records ++ [.flushed] }

/-! ## Every move is a change -/

theorem startedBy_effects (dispatch : Dispatch Item) (now : Nat) :
    startedBy (dispatch.effects now) = Dispatch.activities dispatch now := by
  unfold startedBy Dispatch.effects Dispatch.activities
  cases dispatch.armed <;> simp

theorem takenBy_effects (dispatch : Dispatch Item) (now : Nat) :
    takenBy (dispatch.effects now) = dispatch.started.map .taken := by
  unfold takenBy Dispatch.effects
  cases dispatch.armed <;> simp

theorem mem_answers_of_answer?
    {batcher : Batcher Item}
    {id : Nat}
    {result : Outcome Unit}
    (found : batcher.answer? id = some result) : (id, result) ∈ batcher.answers := by
  obtain ⟨newer, older, split, _⟩ := List.lookup_eq_some_iff.mp found
  simp [split]

/-- A step that hands out batches, as the session carries it out. -/
theorem resume_dispatched {Task Result : Type}
    (session : Session Item)
    (contextFirst : Bool)
    (others : List (Activity Item))
    (wrap : Task → Activity Item)
    (happened : List (Record Item))
    (dispatch : Dispatch Item)
    (next : Next Task Result)
    (batcher : Batcher Item) :
    session.resume others wrap (startedBy (dispatch.effects session.now))
        (happened ++ takenBy (dispatch.effects session.now))
        (dispatched (session.moment contextFirst) dispatch next) =
      Session.handOut
        { session with
          batcher
          activities := remaining wrap next ++ others
          records := session.records ++ happened }
        dispatch := by
  simp only [dispatched, Session.resume, Session.handOut, startedBy_effects, takenBy_effects,
    List.append_assoc]

variable (session : Session Item) (contextFirst : Bool) (answer : Answer (Outcome Unit))

theorem change_entering
    {context size : Nat}
    {item : Item}
    {others : List (Activity Item)}
    (split : session.activities.Perm (.caller context (.entering size item) :: others)) :
    Change session
      (session.turn contextFirst answer others (.caller context (.entering size item))) := by
  have gone : Change session { session with activities := others } := .left split (.caller ..)
  simp only [Session.turn, Adding.step]
  split
  next => simpa [Session.resume, remaining, Adding.records, startedBy, takenBy] using gone
  next =>
    split
    next => simpa [Session.resume, remaining, Adding.records, startedBy, takenBy] using gone
    next id dispatch accepted =>
      obtain ⟨rfl, running, dispatched⟩ := accept_eq_ok accepted
      have opening := @Opening.accepted _ session context
        { id := session.batcher.nextId, item, size } others split rfl running
        (size_le_of_accept_eq_ok accepted)
      have entered := resume_dispatched session contextFirst others (.caller context)
        [.accepted { id := session.batcher.nextId, item, size }] dispatch
        (.continue (.awaiting session.batcher.nextId) : Next (Adding Item) (Outcome Unit))
      exact entered _ ▸ Change.handedOut opening dispatched

theorem change_addNow (size : Nat) (item : Item) : Change session (session.addNow size item) := by
  unfold Session.addNow
  split
  next => exact .reordered (.refl _)
  next id dispatch accepted =>
    obtain ⟨rfl, running, dispatched⟩ := accept_eq_ok accepted
    have opening := @Opening.acceptedAlone _ session
      { id := session.batcher.nextId, item, size } rfl running
      (size_le_of_accept_eq_ok accepted)
    have entered := resume_dispatched session false session.activities Empty.elim
      [.accepted { id := session.batcher.nextId, item, size }] dispatch
      (.done () : Next Empty Unit)
    exact entered _ ▸ Change.handedOut opening dispatched

theorem withdrawnSince_self (batcher : Batcher Item) : withdrawnSince batcher batcher = [] := by
  simp [withdrawnSince]

theorem withdrawnSince_cons
    {before after : Batcher Item}
    {id : Nat}
    (withdrawn : after.withdrawn = id :: before.withdrawn) :
    withdrawnSince before after = [.withdrawn id] := by
  simp [withdrawnSince, withdrawn]

/-- A caller whose context is cancelled takes its item back if it is still pending. -/
theorem change_giveUp
    {context id : Nat}
    {others : List (Activity Item)}
    (split : session.activities.Perm (.caller context (.awaiting id) :: others))
    (cancelled : context ∈ session.cancelled) :
    Change session
      { session with
        batcher := session.batcher.withdraw id
        activities := others
        records := session.records
          ++ (withdrawnSince session.batcher (session.batcher.withdraw id)
            ++ [.returned context id (.error .canceled)]) } := by
  by_cases present : ∃ entry ∈ session.batcher.pending, entry.id = id
  · obtain ⟨size, weighed, withdraw⟩ := withdraw_of_mem present
    have since : withdrawnSince session.batcher (session.batcher.withdraw id) = [.withdrawn id] :=
      withdrawnSince_cons (by rw [withdraw, noteIdle_eq])
    rw [since, withdraw]
    exact .withdrew split cancelled present weighed
  · have absent : ∀ entry ∈ session.batcher.pending, entry.id ≠ id := by simpa using present
    rw [withdraw_of_forall_ne absent, withdrawnSince_self]
    exact .returned split (.gaveUp cancelled absent)

theorem change_awaiting
    {context id : Nat}
    {others : List (Activity Item)}
    (split : session.activities.Perm (.caller context (.awaiting id) :: others)) :
    Change session
      (session.turn contextFirst answer others (.caller context (.awaiting id))) := by
  have gaveUp (cancelled : session.cancelled.contains context = true) :=
    change_giveUp session split (List.contains_iff_mem.mp cancelled)
  have returned {result : Outcome Unit} (reason : Returns session context id result) :=
    Change.returned split reason
  simp only [Session.turn, Adding.step, awaitAnswer]
  split
  next condition =>
    simp only [Bool.and_eq_true] at condition
    simpa [Session.resume, Turn.mapTask, Next.map, giveUp, remaining, Adding.records, startedBy,
      takenBy] using gaveUp condition.1
  next =>
    split
    next result found =>
      simpa [Session.resume, Turn.mapTask, Next.map, remaining, Adding.records, startedBy,
        takenBy, withdrawnSince_self] using returned (.given (mem_answers_of_answer? found))
    next =>
      split
      next withdrawn =>
        simpa [Session.resume, Turn.mapTask, Next.map, remaining, Adding.records, startedBy,
          takenBy, withdrawnSince_self] using returned (.lost (List.contains_iff_mem.mp withdrawn))
      next =>
        split
        next cancelled =>
          simpa [Session.resume, Turn.mapTask, Next.map, giveUp, remaining, Adding.records,
            startedBy, takenBy] using gaveUp cancelled
        next =>
          simpa [Session.resume, Turn.mapTask, Next.map, remaining, Adding.records, startedBy,
            takenBy] using Change.reordered split

theorem change_handler
    {handling : Handling Item}
    {others : List (Activity Item)}
    (split : session.activities.Perm (.handler handling :: others)) :
    Change session (session.turn contextFirst answer others (.handler handling)) := by
  cases handling with
  | starting batch =>
      simpa [Session.turn, Handling.step, Session.resume, remaining, Handling.records] using
        Change.called split
  | working batch =>
      simp only [Session.turn, Handling.step]
      split
      next =>
        simpa [Session.resume, remaining, Handling.records] using Change.reordered split
      next result outcome =>
        simpa [Session.resume, remaining, Handling.records] using Change.ended split outcome
  | answering left result =>
      cases left with
      | cons entry rest =>
          simpa [Session.turn, Handling.step, handOver, Session.resume, remaining,
            Handling.records] using Change.gave split
      | nil =>
          rcases nextBatch_cases session.batcher with
            ⟨next, rest, taken, ready, handout, handlers, lingerArmed⟩ | ⟨none, exhausted⟩
          · simpa [Session.turn, Handling.step, handOver, taken, Session.resume, remaining,
              Handling.records, Handling.batch] using
              Change.wentOn split ready handout handlers lingerArmed
          · simpa [Session.turn, Handling.step, handOver, none, Session.resume, remaining,
              Handling.records] using Change.stopped split exhausted

/-- A linger timer that is due hands out what is ready. -/
theorem turn_timer_of_le
    {wakeAt : Nat}
    (others : List (Activity Item))
    (due : wakeAt ≤ session.now) :
    session.turn contextFirst answer others (.timer wakeAt) =
      Session.handOut
        { session with
          batcher := { session.batcher with lingerArmed := false }
          activities := others }
        session.batcher.lingerEnded := by
  have rang := resume_dispatched session contextFirst others .timer []
    session.batcher.lingerEnded (.done () : Next Nat Unit)
    { session.batcher with lingerArmed := false }
  rw [List.append_nil] at rang
  simp only [Session.turn, lingerStep, Session.moment, Nat.not_lt_of_le due, if_false]
  exact rang

theorem change_timer
    {wakeAt : Nat}
    {others : List (Activity Item)}
    (split : session.activities.Perm (.timer wakeAt :: others)) :
    Change session (session.turn contextFirst answer others (.timer wakeAt)) := by
  by_cases early : session.now < wakeAt
  · simpa [Session.turn, lingerStep, Session.moment, early, Session.resume, remaining, startedBy,
      takenBy] using Change.reordered split
  · have due := Nat.le_of_not_lt early
    rw [turn_timer_of_le session contextFirst answer others due]
    exact .handedOut (.rang split due) (dispatched_dispatch _ true)

theorem change_flush
    {flush : Flush}
    {others : List (Activity Item)}
    (split : session.activities.Perm (.flush flush :: others)) :
    Change session (session.turn contextFirst answer others (.flush flush)) := by
  cases flush with
  | starting =>
      have opening := Opening.flushBegan split
      have began := resume_dispatched session contextFirst others .flush []
        session.batcher.shutdown (.continue .listening : Next Flush Unit)
        { session.batcher with isShutdown := true }
      rw [List.append_nil] at began
      simp only [Session.turn, Flush.step]
      exact began ▸ Change.handedOut opening (dispatched_dispatch _ true)
  | listening =>
      simpa [Session.turn, Flush.step, Session.resume, remaining, Flush.records, startedBy,
        takenBy] using Change.listened split
  | looking seen =>
      cases idle : session.batcher.isIdle with
      | false =>
          simpa [Session.turn, Flush.step, idle, Session.resume, remaining, Flush.records,
            startedBy, takenBy] using Change.looked split idle
      | true =>
          simpa [Session.turn, Flush.step, idle, Session.resume, remaining, Flush.records,
            startedBy, takenBy] using Change.flushed split idle
  | waiting seen =>
      by_cases noticed : session.batcher.idleNotices = seen
      · simpa [Session.turn, Flush.step, noticed, Session.resume, remaining, Flush.records,
          startedBy, takenBy] using Change.reordered split
      · simpa [Session.turn, Flush.step, noticed, Session.resume, remaining, Flush.records,
          startedBy, takenBy] using Change.woke split noticed

/-- A turn of any task is a change. -/
theorem change_turn
    {activity : Activity Item}
    {others : List (Activity Item)}
    (split : session.activities.Perm (activity :: others)) :
    Change session (session.turn contextFirst answer others activity) := by
  cases activity with
  | caller context adding =>
      cases adding with
      | entering size item => exact change_entering session contextFirst answer split
      | awaiting id => exact change_awaiting session contextFirst answer split
  | handler handling => exact change_handler session contextFirst answer split
  | timer wakeAt => exact change_timer session contextFirst answer split
  | flush flush => exact change_flush session contextFirst answer split

theorem perm_eraseIdx
    {activity : Activity Item}
    {place : Nat}
    (found : session.activities[place]? = some activity) :
    session.activities.Perm (activity :: session.activities.eraseIdx place) := by
  obtain ⟨bound, rfl⟩ := List.getElem?_eq_some_iff.mp found
  exact (List.getElem_cons_eraseIdx_perm bound).symm

/-- Every move is a change. -/
theorem change_step (move : Move Item) : Change session (session.step move) := by
  have unchanged : Change session session := .reordered (.refl _)
  cases move with
  | add context size item => exact .arrived (.caller ..)
  | addNoWait size item => exact change_addNow session size item
  | flush => exact .arrived .flush
  | cancel context => exact .cancelled context
  | abandon place =>
      simp only [Session.step]
      split
      next found => exact .left (perm_eraseIdx session found) (.caller ..)
      next found => exact .left (perm_eraseIdx session found) (.flush _)
      next => exact unchanged
  | elapse nanos => exact .elapsed nanos
  | turn place contextFirst answer =>
      simp only [Session.step]
      split
      next => exact unchanged
      next activity found =>
        exact change_turn session contextFirst answer (perm_eraseIdx session found)

/-! ## Invariants -/

theorem sessionOf_append_singleton
    (options : BatchOptions)
    (moves : List (Move Item))
    (move : Move Item) :
    sessionOf options (moves ++ [move]) = (sessionOf options moves).step move :=
  List.foldl_append

/-- What holds at first and survives every change of a session holds of every session. -/
theorem sessionOf_induction
    {holds : Session Item → Prop}
    {options : BatchOptions}
    (first : holds (.create options))
    (next : ∀ {earlier : List (Move Item)} {after : Session Item},
      Change (sessionOf options earlier) after → holds (sessionOf options earlier) → holds after)
    (moves : List (Move Item)) : holds (sessionOf options moves) := by
  -- The induction takes off the last move, so that what leads to it is a session again.
  induction moves using List.reverseRecOn with
  | nil => exact first
  | append_singleton earlier move hypothesis =>
      rw [sessionOf_append_singleton]
      exact next (change_step _ move) hypothesis

end Batcher
end PubSub
