import PubSub.Proofs.Batch.Conservation

/-!
# The counters of a batcher

A batcher keeps three counters beside its queue: the handlers at work, the bytes that are
pending, and whether a linger timer is running. Each of them is what it stands for in every
session, and no operation takes more off a counter than is on it.

Sizes are natural numbers. The sums that a batcher forms are sums over parts of its queue, so
none of them exceeds the sum of the sizes of all pending items.
-/

namespace PubSub
namespace Batcher

variable {Item : Type}

/-! ## Bytes -/

/-- The bytes of a batcher are those of its pending items. -/
def Weighed (batcher : Batcher Item) : Prop := batcher.pendingBytes = bytesOf batcher.pending

/-- What is cut off the queue and what is left make up what there was. -/
theorem Handout.pendingBytes_add
    {before after : Batcher Item}
    {batches : List (List (Entry Item))}
    (handout : Handout before batches after)
    (weighed : before.Weighed) :
    after.pendingBytes + bytesOf batches.flatten = before.pendingBytes := by
  have whole : bytesOf batches.flatten + bytesOf after.pending = before.pendingBytes := by
    rw [weighed, ← bytesOf_append, handout.queue]
  rw [handout.pendingBytes]
  omega

theorem Handout.weighed
    {before after : Batcher Item}
    {batches : List (List (Entry Item))}
    (handout : Handout before batches after)
    (weighed : before.Weighed) : after.Weighed := by
  have exact := handout.pendingBytes_add weighed
  rw [weighed, ← handout.queue, bytesOf_append] at exact
  unfold Weighed
  omega

theorem Weighed.enqueued
    {batcher : Batcher Item}
    (weighed : batcher.Weighed)
    (entry : Entry Item) : (batcher.enqueued entry).Weighed := by
  unfold Weighed at weighed ⊢
  simp only [Batcher.enqueued, bytesOf_append, bytesOf, weighed]
  omega

/-- Every operation takes off the pending bytes what it takes off the queue, and there are that
many. -/
structure Balanced (batcher : Batcher Item) : Prop where
  accepted : ∀ {size id : Nat} {item : Item} {dispatch : Dispatch Item},
    batcher.accept size item = .ok (id, dispatch) →
      dispatch.batcher.pendingBytes + bytesOf dispatch.started.flatten =
        batcher.pendingBytes + size
  lingered :
    batcher.lingerEnded.batcher.pendingBytes + bytesOf batcher.lingerEnded.started.flatten =
      batcher.pendingBytes
  shutDown :
    batcher.shutdown.batcher.pendingBytes + bytesOf batcher.shutdown.started.flatten =
      batcher.pendingBytes
  wentOn : ∀ {next : List (Entry Item)} {rest : Batcher Item},
    batcher.nextBatch = (some next, rest) →
      rest.pendingBytes + bytesOf next = batcher.pendingBytes
  withdrew : ∀ id,
    (batcher.withdraw id).pendingBytes + bytesOf batcher.pending =
      batcher.pendingBytes + bytesOf (batcher.withdraw id).pending
  /-- The sum of the sizes at the front of the queue, which decides where a batch ends. -/
  front : ∀ {front rest : List (Entry Item)},
    front ++ rest = batcher.pending → bytesOf front ≤ batcher.pendingBytes

theorem withdraw_pendingBytes_add
    {batcher : Batcher Item}
    (weighed : batcher.Weighed)
    (id : Nat) :
    (batcher.withdraw id).pendingBytes + bytesOf batcher.pending =
      batcher.pendingBytes + bytesOf (batcher.withdraw id).pending := by
  by_cases present : ∃ entry ∈ batcher.pending, entry.id = id
  · obtain ⟨size, sum, withdraw⟩ := withdraw_of_mem present
    unfold Weighed at weighed
    rw [withdraw, noteIdle_eq]
    show batcher.pendingBytes - size + _ = _ + bytesOf (batcher.pending.eraseP (·.id == id))
    omega
  · rw [withdraw_of_forall_ne (by simpa using present)]

theorem Weighed.balanced {batcher : Batcher Item} (weighed : batcher.Weighed) :
    Balanced batcher where
  accepted {size id item dispatch} accepted := by
    obtain ⟨_, _, dispatched⟩ := accept_eq_ok accepted
    exact dispatched.pendingBytes_add (weighed.enqueued { id, item, size })
  lingered := (dispatched_dispatch { batcher with lingerArmed := false } true).pendingBytes_add
    weighed
  shutDown := (dispatched_dispatch { batcher with isShutdown := true } true).pendingBytes_add
    weighed
  wentOn {next rest} taken := by
    rcases nextBatch_cases batcher with ⟨other, after, cut, _, handout, _⟩ | ⟨none, _⟩
    · rw [taken] at cut
      cases cut
      simpa using handout.pendingBytes_add weighed
    · rw [taken] at none
      cases none
  withdrew := withdraw_pendingBytes_add weighed
  front {front rest} split := by
    rw [weighed, ← split, bytesOf_append]
    omega

/-! ## All counters -/

/-- Whether a task is a linger timer. -/
@[simp] def Activity.isTimer : Activity Item → Bool
  | .timer _ => true
  | _ => false

/-- The counters of a batcher are what they stand for. -/
structure Counted (options : BatchOptions) (session : Session Item) : Prop where
  built : session.batcher.options = options
  limited : session.batcher.handlers ≤ options.handlerLimit
  timers : session.activities.countP Activity.isTimer = session.batcher.lingerArmed.toNat
  weighed : session.batcher.Weighed

namespace Counted

attribute [local simp] countP_cons_toNat

variable {options : BatchOptions} {before after : Session Item}

theorem create (options : BatchOptions) : Counted options (.create options : Session Item) where
  built := rfl
  limited := Nat.zero_le _
  timers := rfl
  weighed := rfl

/-- Only the counters, the queue and the number of timers matter. -/
theorem congr
    (counted : Counted options before)
    (built : after.batcher.options = before.batcher.options)
    (handlers : after.batcher.handlers ≤ before.batcher.handlers)
    (lingerArmed : after.batcher.lingerArmed = before.batcher.lingerArmed)
    (timers : after.activities.countP Activity.isTimer = before.activities.countP Activity.isTimer)
    (weighed : after.batcher.Weighed) : Counted options after where
  built := built.trans counted.built
  limited := Nat.le_trans handlers counted.limited
  timers := by rw [timers, lingerArmed, counted.timers]
  weighed := weighed

theorem opening
    {middle : Session Item}
    {lingered : Bool}
    (opening : Opening before middle lingered)
    (counted : Counted options before) : Counted options middle := by
  cases opening with
  | accepted split =>
      exact counted.congr rfl (Nat.le_refl _) rfl (by simp [split.countP_eq])
        (counted.weighed.enqueued _)
  | acceptedAlone =>
      exact counted.congr rfl (Nat.le_refl _) rfl rfl (counted.weighed.enqueued _)
  | rang split =>
      -- The timer that goes off was the only one, because there is at most one.
      have timers := counted.timers
      have bound := before.batcher.lingerArmed.toNat_le
      simp only [split.countP_eq, countP_cons_toNat, Activity.isTimer, Bool.toNat_true] at timers
      refine ⟨counted.built, counted.limited, ?_, counted.weighed⟩
      show _ = false.toNat
      simp only [Bool.toNat_false]
      omega
  | flushBegan split =>
      exact counted.congr rfl (Nat.le_refl _) rfl (by simp [split.countP_eq]) counted.weighed

/-- Handing out stays within the limit of handlers and starts a timer only if none is running. -/
theorem handOut
    {session : Session Item}
    {lingered : Bool}
    {dispatch : Dispatch Item}
    (dispatched : Dispatched session.batcher lingered dispatch)
    (counted : Counted options session) : Counted options (session.handOut dispatch) where
  built := dispatched.options.trans counted.built
  limited := by
    have limited := dispatched.limited
    have before := counted.limited
    rw [counted.built] at limited
    show dispatch.batcher.handlers ≤ _
    omega
  timers := by
    have timers := counted.timers
    have unarmed := dispatched.unarmed
    simp only [Session.activities_handOut, Session.batcher_handOut, List.countP_append,
      countP_activities, dispatched.lingerArmed, timers]
    cases armed : dispatch.armed with
    | false => simp
    | true => simp [unarmed armed]
  weighed := dispatched.weighed counted.weighed

theorem change
    (change : Change before after)
    (counted : Counted options before) : Counted options after := by
  cases change with
  | handedOut opening dispatched => exact (counted.opening opening).handOut dispatched
  | arrived fresh =>
      exact counted.congr rfl (Nat.le_refl _) rfl (by cases fresh <;> simp) counted.weighed
  | left split leaves =>
      exact counted.congr rfl (Nat.le_refl _) rfl (by cases leaves <;> simp [split.countP_eq])
        counted.weighed
  | reordered same =>
      exact counted.congr rfl (Nat.le_refl _) rfl (same.countP_eq _).symm counted.weighed
  | cancelled => exact { counted with }
  | elapsed => exact { counted with }
  | withdrew split _ _ sum =>
      refine counted.congr (by simp [noteIdle_eq, without]) (by simp [noteIdle_eq, without])
        (by simp [noteIdle_eq, without]) (by simp [split.countP_eq]) ?_
      have weighed := counted.weighed
      simp only [Weighed, noteIdle_eq, without] at weighed ⊢
      omega
  | wentOn split _ handout handlers lingerArmed =>
      exact counted.congr handout.options (Nat.le_of_eq handlers) lingerArmed
        (by simp [split.countP_eq])
        (handout.weighed counted.weighed)
  | stopped split =>
      exact counted.congr (by simp [noteIdle_eq]) (by simp [noteIdle_eq]) (by simp [noteIdle_eq])
        (by simp [split.countP_eq]) (by simpa [Weighed, noteIdle_eq] using counted.weighed)
  | returned split | called split | ended split | gave split | listened split | looked split
  | woke split | flushed split =>
      exact counted.congr rfl (Nat.le_refl _) rfl (by simp [split.countP_eq]) counted.weighed

end Counted

theorem counted_sessionOf (options : BatchOptions) (moves : List (Move Item)) :
    Counted options (sessionOf options moves) :=
  sessionOf_induction (.create options) .change moves

/-- The numbers of the pending items increase, because they were accepted in this order. -/
theorem Conserved.increasing_pending
    {session : Session Item}
    (conserved : Conserved session) :
    (session.batcher.pending.map Entry.id).Pairwise (· < ·) := by
  have part : session.batcher.pending.Sublist session.accepted :=
    calc
      session.batcher.pending.Sublist (session.taken.flatten ++ session.batcher.pending) :=
        List.sublist_append_right _ _
      _ = session.accepted.filter (·.id ∉ session.withdrawn) := conserved.queue
      List.Sublist _ session.accepted := List.filter_sublist
  have increasing : (session.accepted.map Entry.id).Pairwise (· < ·) := by
    rw [conserved.numbers]
    exact List.pairwise_lt_range
  exact increasing.sublist (part.map Entry.id)

/-- A batcher counts the handler tasks that are there, at most as many as the options allow, and the
bytes that are pending, and it notes a linger timer exactly if one is running. No operation takes
more off a counter than is on it, and the numbers of the pending items increase. -/
theorem counters_eq_counted (options : BatchOptions) (moves : List (Move Item)) :
    let session := sessionOf options moves
    session.batcher.handlers = session.activities.countP Activity.isHandler ∧
      session.batcher.handlers ≤ max options.maxHandlers 1 ∧
      session.working.length ≤ max options.maxHandlers 1 ∧
      (∀ handling, .handler handling ∈ session.activities → 0 < session.batcher.handlers) ∧
      session.batcher.pendingBytes = bytesOf session.batcher.pending ∧
      Balanced session.batcher ∧
      (session.batcher.pending.map Entry.id).Pairwise (· < ·) ∧
      session.activities.countP Activity.isTimer = if session.batcher.lingerArmed then 1 else 0 := by
  intro session
  have tallied : Tallied session := tallied_sessionOf options moves
  have counted : Counted options session := counted_sessionOf options moves
  have limited : session.batcher.handlers ≤ max options.maxHandlers 1 := counted.limited
  have working : session.working.length ≤ session.batcher.handlers := by
    rw [tallied.handlers, ← List.countP_true, countP_working]
    refine List.countP_mono_left fun activity _ works => ?_
    cases activity with
    | handler => rfl
    | _ => contradiction
  refine ⟨tallied.handlers, limited, Nat.le_trans working limited, fun handling member => ?_,
    counted.weighed, counted.weighed.balanced,
    (conserved_sessionOf options moves).increasing_pending, ?_⟩
  · rw [tallied.handlers]
    exact List.countP_pos_iff.mpr ⟨_, member, rfl⟩
  · rw [counted.timers]
    cases session.batcher.lingerArmed <;> rfl

end Batcher
end PubSub
