import PubSub.Proofs.Batch.Conservation

/-!
# A flush waits for everything and is always woken

A flush looks whether the batcher is idle, and waits for a notice if it is not. Every
step that makes the batcher idle counts a notice, and the flush began to listen before it
looked; so in an idle batcher no flush waits for another notice. Once a flush has found
the batcher idle, the batcher is shut down and stays quiet: nothing enters the queue, so
no handler ever starts again.
-/

namespace PubSub
namespace Batcher

variable {Item : Type}

attribute [local simp] List.filterMap_cons countP_cons_toNat

/-! ## Handler tasks and slots -/

section

variable {session : Session Item} (tallied : Tallied session)

include tallied

/-- A handler task has a slot. -/
theorem Tallied.handlers_pos
    {handling : Handling Item}
    {others : List (Activity Item)}
    (split : session.activities.Perm (.handler handling :: others)) :
    0 < session.batcher.handlers := by
  rw [tallied.handlers, split.countP_eq]
  simp

/-- Without handlers, every batch that was taken has an answer. -/
theorem Tallied.exists_ended
    (none : session.batcher.handlers = 0)
    {batch : List (Entry Item)}
    (taken : batch ∈ session.taken) : ∃ ending ∈ session.ended, ending.1 = batch := by
  have noHandler : ∀ activity ∈ session.activities, activity.isHandler = false := by
    simpa using List.countP_eq_zero.mp (tallied.handlers.symm.trans none)
  have noStarting : session.starting = [] := by
    refine List.filterMap_eq_nil_iff.mpr fun activity member => ?_
    have apart := noHandler activity member
    cases activity with
    | handler handling => contradiction
    | _ => rfl
  have noWorking : session.working = [] := by
    refine List.filterMap_eq_nil_iff.mpr fun activity member => ?_
    have apart := noHandler activity member
    cases activity with
    | handler handling => contradiction
    | _ => rfl
  have permTaken := tallied.perm_taken
  have permCalled := tallied.perm_called
  rw [noStarting, List.append_nil] at permTaken
  rw [noWorking, List.append_nil] at permCalled
  exact List.mem_map.mp ((permCalled.trans permTaken).mem_iff.mpr taken)

end

/-- An idle batcher has no handler and nothing pending. -/
theorem isIdle_iff {batcher : Batcher Item} :
    batcher.isIdle = true ↔ batcher.handlers = 0 ∧ batcher.pending = [] := by
  simp [isIdle]

/-- Handing out makes no batcher idle. -/
theorem Dispatched.idle_before
    {before : Batcher Item}
    {lingered : Bool}
    {dispatch : Dispatch Item}
    (dispatched : Dispatched before lingered dispatch)
    (idle : dispatch.batcher.isIdle = true) : before.isIdle = true := by
  obtain ⟨handlers, pending⟩ := isIdle_iff.mp idle
  have count := dispatched.handlers
  have nothing : dispatch.started = [] := List.length_eq_zero_iff.mp (by omega)
  have queue := dispatched.queue
  rw [nothing, pending] at queue
  exact isIdle_iff.mpr ⟨by omega, queue.symm⟩

/-! ## Nobody misses a notice -/

/-- What is known about a flush: it knows only notices that were given, and it does not wait
in an idle batcher for another notice. -/
def Flush.Fits (batcher : Batcher Item) : Flush → Prop
  | .starting => True
  | .listening => batcher.isShutdown = true
  | .looking seen => batcher.isShutdown = true ∧ seen ≤ batcher.idleNotices
  | .waiting seen =>
      batcher.isShutdown = true ∧ seen ≤ batcher.idleNotices ∧
        (batcher.isIdle = true → seen < batcher.idleNotices)

/-- A flush misses nothing as long as a batcher that becomes idle says so. -/
theorem Flush.Fits.mono
    {before after : Batcher Item}
    {flush : Flush}
    (fits : flush.Fits before)
    (isShutdown : before.isShutdown = true → after.isShutdown = true)
    (notices : before.idleNotices ≤ after.idleNotices)
    (idle : after.isIdle = true →
      before.isIdle = true ∨ before.idleNotices < after.idleNotices) : flush.Fits after := by
  cases flush with
  | starting => trivial
  | listening => exact isShutdown fits
  | looking seen => exact ⟨isShutdown fits.1, Nat.le_trans fits.2 notices⟩
  | waiting seen =>
      obtain ⟨down, known, awake⟩ := fits
      refine ⟨isShutdown down, Nat.le_trans known notices, fun quiet => ?_⟩
      rcases idle quiet with already | noted
      · exact Nat.lt_of_lt_of_le (awake already) notices
      · exact Nat.lt_of_le_of_lt known noted

/-- A look whether the batcher is idle leaves no flush waiting. -/
theorem Flush.Fits.noteIdle
    {before after : Batcher Item}
    {flush : Flush}
    (fits : flush.Fits before)
    (isShutdown : after.isShutdown = before.isShutdown)
    (notices : after.idleNotices = before.idleNotices) : flush.Fits after.noteIdle := by
  refine fits.mono ?_ ?_ ?_
  · simp [noteIdle_eq, isShutdown]
  · simp [noteIdle_eq, notices]
  · intro idle
    have quiet : after.isIdle = true := by simpa [noteIdle_eq, isIdle] using idle
    simp [noteIdle_eq, quiet, notices]

/-- All flushes of a session fit its batcher. -/
def Noticed (session : Session Item) : Prop :=
  ∀ flush, .flush flush ∈ session.activities → flush.Fits session.batcher

namespace Noticed

variable {before after : Session Item}

theorem opening
    {middle : Session Item}
    {lingered : Bool}
    (opening : Opening before middle lingered)
    (noticed : Noticed before) : Noticed middle := by
  intro flush member
  cases opening with
  | accepted split =>
      refine (noticed flush (split.mem_iff.mpr (by simpa using member))).mono id (Nat.le_refl _) ?_
      simp [isIdle_iff, enqueued]
  | acceptedAlone =>
      refine (noticed flush member).mono id (Nat.le_refl _) ?_
      simp [isIdle_iff, enqueued]
  | rang split =>
      exact (noticed flush (split.mem_iff.mpr (by simp [member]))).mono id (Nat.le_refl _) .inl
  | flushBegan split =>
      rcases List.mem_cons.mp member with new | earlier
      · cases new
        rfl
      · exact (noticed flush (split.mem_iff.mpr (by simp [earlier]))).mono (fun _ => rfl)
          (Nat.le_refl _) .inl

theorem handOut
    {session : Session Item}
    {lingered : Bool}
    {dispatch : Dispatch Item}
    (dispatched : Dispatched session.batcher lingered dispatch)
    (noticed : Noticed session) : Noticed (session.handOut dispatch) := by
  intro flush member
  refine (noticed flush (by simpa using member)).mono ?_ ?_ ?_
  · simp [dispatched.isShutdown]
  · simp [dispatched.idleNotices]
  · exact fun idle => .inl (dispatched.idle_before idle)

theorem change
    (change : Change before after)
    (tallied : Tallied before)
    (noticed : Noticed before) : Noticed after := by
  cases change with
  | handedOut opening dispatched => exact (noticed.opening opening).handOut dispatched
  | arrived fresh =>
      intro flush member
      rcases List.mem_cons.mp member with new | earlier
      · cases fresh with
        | caller => contradiction
        | flush => cases new; trivial
      · exact noticed flush earlier
  | left split | flushed split =>
      exact fun flush member => noticed flush (split.mem_iff.mpr (List.mem_cons_of_mem _ member))
  | reordered same => exact fun flush member => noticed flush (same.mem_iff.mpr member)
  | cancelled | elapsed => exact noticed
  | withdrew split =>
      intro flush member
      exact (noticed flush (split.mem_iff.mpr (List.mem_cons_of_mem _ member))).noteIdle rfl rfl
  | stopped split =>
      intro flush member
      exact (noticed flush (split.mem_iff.mpr (List.mem_cons_of_mem _ member))).noteIdle rfl rfl
  | wentOn split _ handout handlers =>
      intro flush member
      have earlier : .flush flush ∈ before.activities := by simpa [split.mem_iff] using member
      -- The handler keeps its slot, so the batcher does not become idle.
      have busy := tallied.handlers_pos split
      refine (noticed flush earlier).mono ?_ ?_ fun idle => ?_
      · simp [handout.isShutdown]
      · simp [handout.idleNotices]
      · have none := (isIdle_iff.mp idle).1.symm.trans handlers
        omega
  | gave split =>
      intro flush member
      exact (noticed flush (by simpa [split.mem_iff] using member)).mono id (Nat.le_refl _) .inl
  | listened split =>
      have down := noticed _ (split.mem_iff.mpr (List.mem_cons_self ..))
      intro flush member
      rcases List.mem_cons.mp member with new | earlier
      · cases new
        exact ⟨down, Nat.le_refl _⟩
      · exact noticed flush (split.mem_iff.mpr (List.mem_cons_of_mem _ earlier))
  | looked split busy =>
      obtain ⟨down, known⟩ := noticed _ (split.mem_iff.mpr (List.mem_cons_self ..))
      intro flush member
      rcases List.mem_cons.mp member with new | earlier
      · cases new
        exact ⟨down, known, fun idle => absurd (idle.symm.trans busy) (by simp)⟩
      · exact noticed flush (split.mem_iff.mpr (List.mem_cons_of_mem _ earlier))
  | woke split =>
      obtain ⟨down, _⟩ := noticed _ (split.mem_iff.mpr (List.mem_cons_self ..))
      intro flush member
      rcases List.mem_cons.mp member with new | earlier
      · cases new
        exact down
      · exact noticed flush (split.mem_iff.mpr (List.mem_cons_of_mem _ earlier))
  | returned split | called split | ended split =>
      exact fun flush member => noticed flush (by simpa [split.mem_iff] using member)

end Noticed

theorem noticed_sessionOf (options : BatchOptions) (moves : List (Move Item)) :
    Noticed (sessionOf options moves) :=
  sessionOf_induction nofun (fun change => Noticed.change change (tallied_sessionOf _ _)) moves

/-! ## Quiet for ever -/

/-- A batcher that is shut down, with nothing to do. -/
structure Quiet (session : Session Item) : Prop where
  isShutdown : session.batcher.isShutdown = true
  pending : session.batcher.pending = []
  handlers : session.batcher.handlers = 0

namespace Quiet

variable {before after session : Session Item}

/-- In a quiet batcher, every accepted item was taken back or was in a batch whose handler has
come to an answer. -/
theorem settled
    (quiet : Quiet session)
    (tallied : Tallied session)
    (conserved : Conserved session)
    {entry : Entry Item}
    (accepted : entry ∈ session.accepted) :
    entry.id ∈ session.withdrawn ∨ ∃ ending ∈ session.ended, entry ∈ ending.1 := by
  by_cases withdrawn : entry.id ∈ session.withdrawn
  · exact .inl withdrawn
  · rcases conserved.mem_queue.mpr ⟨accepted, withdrawn⟩ with taken | pending
    · obtain ⟨batch, taken, inBatch⟩ := List.mem_flatten.mp taken
      obtain ⟨ending, ended, rfl⟩ := tallied.exists_ended quiet.handlers taken
      exact .inr ⟨ending, ended, inBatch⟩
    · rw [quiet.pending] at pending
      contradiction

/-- What comes before batches are handed out does not wake a quiet batcher. -/
theorem opening
    {middle : Session Item}
    {lingered : Bool}
    (opening : Opening before middle lingered)
    (quiet : Quiet before) :
    Quiet middle ∧ middle.accepted = before.accepted ∧ middle.called = before.called := by
  cases opening with
  | accepted _ _ running | acceptedAlone _ running =>
      exact absurd (running.symm.trans quiet.isShutdown) (by simp)
  | rang => exact ⟨{ quiet with }, rfl, rfl⟩
  | flushBegan => exact ⟨{ quiet with isShutdown := rfl }, rfl, rfl⟩

/-- A quiet batcher hands out nothing. -/
theorem handOut
    {lingered : Bool}
    {dispatch : Dispatch Item}
    (quiet : Quiet session)
    (dispatched : Dispatched session.batcher lingered dispatch) :
    Quiet (session.handOut dispatch) := by
  have nothing := dispatched.batches_eq_nil quiet.pending
  have queue := dispatched.queue
  have handlers := dispatched.handlers
  rw [nothing, quiet.pending] at queue
  rw [nothing, quiet.handlers] at handlers
  exact ⟨dispatched.isShutdown.trans quiet.isShutdown, queue, handlers⟩

/-- A quiet batcher stays quiet, accepts nothing and does not call the handler. -/
theorem change
    (change : Change before after)
    (tallied : Tallied before)
    (quiet : Quiet before) :
    Quiet after ∧ after.accepted = before.accepted ∧ after.called = before.called := by
  have noHandler {handling : Handling Item} {others : List (Activity Item)}
      (split : before.activities.Perm (.handler handling :: others)) : False :=
    absurd quiet.handlers (Nat.ne_of_gt (tallied.handlers_pos split))
  cases change with
  | handedOut opening dispatched =>
      obtain ⟨still, accepted, called⟩ := quiet.opening opening
      exact ⟨still.handOut dispatched, by simpa using accepted, by simpa using called⟩
  | withdrew _ _ present =>
      obtain ⟨entry, member, _⟩ := present
      rw [quiet.pending] at member
      contradiction
  | called split | ended split | gave split | wentOn split | stopped split =>
      exact (noHandler split).elim
  | _ => exact ⟨{ quiet with }, by simp, by simp⟩

end Quiet

/-- Whatever is done to a batcher that is quiet, it accepts nothing and does not call the
handler. -/
theorem quiet_run
    (options : BatchOptions)
    (moves later : List (Move Item))
    (quiet : Quiet (sessionOf options moves)) :
    ((sessionOf options moves).run later).accepted = (sessionOf options moves).accepted ∧
      ((sessionOf options moves).run later).called = (sessionOf options moves).called := by
  induction later generalizing moves with
  | nil => exact ⟨rfl, rfl⟩
  | cons move rest hypothesis =>
      obtain ⟨still, accepted, called⟩ :=
        quiet.change (change_step _ move) (tallied_sessionOf options moves)
      rw [← sessionOf_append_singleton] at still accepted called
      obtain ⟨acceptedLater, calledLater⟩ := hypothesis (moves ++ [move]) still
      rw [sessionOf_append_singleton] at acceptedLater calledLater accepted called
      exact ⟨acceptedLater.trans accepted, calledLater.trans called⟩

/-- A session in which a flush was answered is quiet. -/
theorem quiet_of_flushed
    (options : BatchOptions)
    (moves : List (Move Item)) :
    .flushed ∈ (sessionOf options moves).records → Quiet (sessionOf options moves) := by
  induction moves using List.reverseRecOn with
  | nil => simp [sessionOf, Session.run, Session.create]
  | append_singleton earlier move hypothesis =>
      have change := change_step (sessionOf options earlier) move
      rw [sessionOf_append_singleton]
      intro member
      by_cases before : .flushed ∈ (sessionOf options earlier).records
      · exact ((hypothesis before).change change (tallied_sessionOf options earlier)).1
      · generalize (sessionOf options earlier).step move = after at change member
        cases change with
        | flushed split idle =>
            obtain ⟨handlers, pending⟩ := isIdle_iff.mp idle
            have down := noticed_sessionOf options earlier _
              (split.mem_iff.mpr (List.mem_cons_self ..))
            exact ⟨down.1, pending, handlers⟩
        | handedOut opening =>
            cases opening <;> exact absurd (by simpa using member) before
        | _ => exact absurd (by simpa using member) before

/-- Whatever is done to a batcher, in whatever order: once a flush has been answered, every
item accepted so far was taken back or was in a batch whose handler has come to an answer, and
whatever happens later, no further item is accepted and the handler is not called again. A
flush that waits in an idle batcher has been woken. -/
theorem flushed_drained_and_waiting_woken (options : BatchOptions) (moves : List (Move Item)) :
    let session := sessionOf options moves
    (.flushed ∈ session.records →
      (∀ entry ∈ session.accepted,
        entry.id ∈ session.withdrawn ∨ ∃ ending ∈ session.ended, entry ∈ ending.1) ∧
        ∀ later,
          (session.run later).accepted = session.accepted ∧
            (session.run later).called = session.called) ∧
      (session.batcher.handlers = 0 → session.batcher.pending = [] →
        ∀ seen, .flush (.waiting seen) ∈ session.activities →
          session.batcher.idleNotices ≠ seen ∧
            ∀ moment : Moment,
              (Flush.step moment session.batcher (.waiting seen)).next = .continue .listening) := by
  intro session
  refine ⟨fun flushed => ?_, fun handlers pending seen member => ?_⟩
  · have quiet : Quiet session := quiet_of_flushed options moves flushed
    refine ⟨fun entry accepted => ?_, fun later => quiet_run options moves later quiet⟩
    exact quiet.settled (tallied_sessionOf options moves) (conserved_sessionOf options moves)
      accepted
  · obtain ⟨_, _, awake⟩ := noticed_sessionOf options moves _ member
    have noticed : session.batcher.idleNotices ≠ seen :=
      Nat.ne_of_gt (awake (isIdle_iff.mpr ⟨handlers, pending⟩))
    exact ⟨noticed, fun moment => by simp [Flush.step, noticed]⟩

end Batcher
end PubSub
