import PubSub.Proofs.Batch.Change

/-!
# A ready batch does not wait for a stranger

As long as a handler may start, items wait for one of two reasons only: there are too few
of them, or they linger for company. In the second case a timer is running that hands
them out. A step that hands out batches establishes this; between two such steps the
queue only gets shorter, and a handler that stops has found no batch.
-/

namespace PubSub
namespace Batcher

variable {Item : Type} {options : BatchOptions}

/-- An armed linger timer is a task that goes off soon. -/
structure Timed (options : BatchOptions) (session : Session Item) : Prop where
  built : session.batcher.options = options
  armed : session.batcher.lingerArmed = true →
    ∃ wakeAt, .timer wakeAt ∈ session.activities ∧ wakeAt ≤ session.now + options.linger.nanos

/-- Items that wait although a handler may start are too few or linger. -/
structure Prompt (options : BatchOptions) (session : Session Item) : Prop
    extends Timed options session where
  drained : session.batcher.handlers < options.handlerLimit →
    session.batcher.isShutdown = true → session.batcher.pending = []
  lingering : session.batcher.handlers < options.handlerLimit →
    session.batcher.isShutdown = false →
    options.lowerLimit ≤ session.batcher.pending.length →
    options.linger.isZero = false ∧ session.batcher.isFull = false ∧
      session.batcher.lingerArmed = true

namespace Timed

variable {before after : Session Item}

/-- A timer goes on as long as its task does. -/
theorem mono
    (timed : Timed options before)
    (same : after.batcher.options = before.batcher.options)
    (lingerArmed : after.batcher.lingerArmed = true → before.batcher.lingerArmed = true)
    (timers : ∀ wakeAt, .timer wakeAt ∈ before.activities → .timer wakeAt ∈ after.activities)
    (now : before.now ≤ after.now) : Timed options after where
  built := same.trans timed.built
  armed armed := by
    obtain ⟨wakeAt, member, soon⟩ := timed.armed (lingerArmed armed)
    exact ⟨wakeAt, timers wakeAt member, by omega⟩

theorem opening
    {middle : Session Item}
    {lingered : Bool}
    (opening : Opening before middle lingered)
    (timed : Timed options before) : Timed options middle := by
  cases opening with
  | accepted split | flushBegan split =>
      exact timed.mono rfl (fun armed => armed) (by simp [split.mem_iff]) (Nat.le_refl _)
  | acceptedAlone => exact timed.mono rfl (fun armed => armed) (by simp) (Nat.le_refl _)
  | rang => exact { built := timed.built, armed := nofun }

/-- A timer that is armed by handing out is a new task. -/
theorem handOut
    {session : Session Item}
    {lingered : Bool}
    {dispatch : Dispatch Item}
    (dispatched : Dispatched session.batcher lingered dispatch)
    (timed : Timed options session) : Timed options (session.handOut dispatch) := by
  have same : dispatch.batcher.options = options := dispatched.options.trans timed.built
  refine ⟨same, fun armed => ?_⟩
  rw [Session.batcher_handOut, dispatched.lingerArmed, Bool.or_eq_true] at armed
  rcases armed with earlier | new
  · obtain ⟨wakeAt, member, soon⟩ := timed.armed earlier
    exact ⟨wakeAt, List.mem_append_right _ member, soon⟩
  · refine ⟨session.now + options.linger.nanos, ?_, Nat.le_refl _⟩
    simp [new, same]

theorem change
    (change : Change before after)
    (timed : Timed options before) : Timed options after := by
  cases change with
  | handedOut opening dispatched => exact handOut dispatched (timed.opening opening)
  | arrived => exact timed.mono rfl id (by simp +contextual) (Nat.le_refl _)
  | left split leaves =>
      refine timed.mono rfl id ?_ (Nat.le_refl _)
      cases leaves <;> simp [split.mem_iff]
  | reordered same => exact timed.mono rfl id (by simp [same.mem_iff]) (Nat.le_refl _)
  | cancelled => exact { timed with }
  | elapsed => exact timed.mono rfl id (by simp) (Nat.le_add_right _ _)
  | withdrew split =>
      exact timed.mono (by simp [noteIdle_eq, without]) (by simp [noteIdle_eq, without])
        (by simp [split.mem_iff]) (Nat.le_refl _)
  | wentOn split _ handout _ lingerArmed =>
      exact timed.mono handout.options (by simp [lingerArmed]) (by simp [split.mem_iff])
        (Nat.le_refl _)
  | stopped split =>
      exact timed.mono (by simp [noteIdle_eq]) (by simp [noteIdle_eq]) (by simp [split.mem_iff])
        (Nat.le_refl _)
  | returned split | called split | ended split | gave split | listened split | looked split
  | woke split | flushed split =>
      exact timed.mono rfl id (by simp [split.mem_iff]) (Nat.le_refl _)

end Timed

namespace Prompt

variable {before after : Session Item}

theorem create (options : BatchOptions) : Prompt options (.create options : Session Item) where
  built := rfl
  armed := nofun
  drained _ _ := rfl
  lingering _ _ enough := absurd options.lowerLimit_pos (Nat.not_lt_of_le enough)

/-- Handing out leaves nothing ready behind, and a timer if items linger. -/
theorem handOut
    {session : Session Item}
    {lingered : Bool}
    {dispatch : Dispatch Item}
    (dispatched : Dispatched session.batcher lingered dispatch)
    (timed : Timed options session) : Prompt options (session.handOut dispatch) := by
  have same : dispatch.batcher.options = options := dispatched.options.trans timed.built
  have settled := dispatched.settled
  have watched := dispatched.watched
  rw [timed.built] at settled watched
  -- Whatever is left is not ready, so one of the three reasons of `isReady_eq_false_iff` holds.
  refine ⟨timed.handOut dispatched, fun free down => ?_, fun free running enough => ?_⟩
  · rcases isReady_eq_false_iff.mp (settled free) with empty | ⟨running, _⟩
    · exact empty
    · exact absurd (running.symm.trans down) (by simp)
  · have present : dispatch.batcher.pending ≠ [] := by
      intro empty
      rw [Session.batcher_handOut, empty] at enough
      exact absurd options.lowerLimit_pos (Nat.not_lt_of_le enough)
    rcases isReady_eq_false_iff.mp (settled free) with empty | ⟨_, few | ⟨_, lingers, room⟩⟩
    · exact absurd empty present
    · rw [same] at few
      exact absurd enough (Nat.not_le_of_lt few)
    · rw [same] at lingers
      exact ⟨lingers, room,
        watched free present (dispatched.isShutdown.symm.trans running) lingers⟩

/-- Nothing becomes ready while the queue only gets shorter. -/
theorem mono
    (prompt : Prompt options before)
    (timed : Timed options after)
    (handlers : after.batcher.handlers = before.batcher.handlers)
    (isShutdown : after.batcher.isShutdown = before.batcher.isShutdown)
    (lingerArmed : after.batcher.lingerArmed = before.batcher.lingerArmed)
    (length : after.batcher.pending.length ≤ before.batcher.pending.length)
    (bytes : after.batcher.pendingBytes ≤ before.batcher.pendingBytes) :
    Prompt options after where
  toTimed := timed
  drained free down := by
    rw [handlers] at free
    rw [isShutdown] at down
    rw [prompt.drained free down, List.length_nil, Nat.le_zero] at length
    exact List.length_eq_zero_iff.mp length
  lingering free running enough := by
    rw [handlers] at free
    rw [isShutdown] at running
    obtain ⟨lingers, room, armed⟩ := prompt.lingering free running (Nat.le_trans enough length)
    refine ⟨lingers, ?_, lingerArmed.trans armed⟩
    exact isFull_eq_false_of_le (timed.built.trans prompt.built.symm) length bytes room

/-- A handler stops only if no batch is ready. -/
theorem stopped
    (timed : Timed options after)
    (exhausted : after.batcher.isReady true = false) : Prompt options after where
  toTimed := timed
  drained _ down := by
    rcases isReady_eq_false_iff.mp exhausted with empty | ⟨running, _⟩
    · exact empty
    · exact absurd (running.symm.trans down) (by simp)
  lingering _ _ enough := by
    have few := length_pending_lt_of_isReady_eq_false exhausted
    rw [timed.built] at few
    exact absurd enough (Nat.not_le_of_lt few)

theorem change
    (change : Change before after)
    (prompt : Prompt options before) : Prompt options after := by
  have timed := prompt.toTimed.change change
  cases change with
  | handedOut opening dispatched => exact handOut dispatched (prompt.toTimed.opening opening)
  | withdrew =>
      exact prompt.mono timed (by simp [noteIdle_eq, without]) (by simp [noteIdle_eq, without])
        (by simp [noteIdle_eq, without])
        (by simpa [noteIdle_eq, without] using List.length_eraseP_le)
        (by simp [noteIdle_eq, without])
  | wentOn _ _ handout handlers lingerArmed =>
      exact prompt.mono timed handlers handout.isShutdown lingerArmed
        handout.pending_suffix.length_le (handout.pendingBytes ▸ Nat.sub_le _ _)
  | stopped _ exhausted =>
      exact stopped timed (by simpa [noteIdle_eq, isReady, isFull] using exhausted)
  | _ => exact prompt.mono timed rfl rfl rfl (Nat.le_refl _) (Nat.le_refl _)

end Prompt

theorem prompt_sessionOf (options : BatchOptions) (moves : List (Move Item)) :
    Prompt options (sessionOf options moves) :=
  sessionOf_induction (.create options) .change moves

/-- The turn of a due timer leaves a slot free only if too few items are pending. -/
theorem length_pending_lt_of_due
    {session : Session Item}
    {place wakeAt : Nat}
    (built : session.batcher.options = options)
    (found : session.activities[place]? = some (.timer wakeAt))
    (due : wakeAt ≤ session.now)
    (contextFirst : Bool)
    (answer : Answer (Outcome Unit)) :
    let after := session.step (.turn place contextFirst answer)
    after.batcher.handlers < options.handlerLimit →
      after.batcher.pending.length < options.lowerLimit := by
  intro after free
  have rang : after.batcher = session.batcher.lingerEnded.batcher := by
    simp only [after, Session.step, found]
    rw [turn_timer_of_le session contextFirst answer _ due, Session.batcher_handOut]
  have dispatched : Dispatched { session.batcher with lingerArmed := false } true
      session.batcher.lingerEnded := dispatched_dispatch _ true
  have same : after.batcher.options = options := rang ▸ dispatched.options.trans built
  have exhausted : after.batcher.isReady true = false := by
    rw [rang] at free ⊢
    exact dispatched.settled (built ▸ free)
  exact same ▸ length_pending_lt_of_isReady_eq_false exhausted

/-- Whatever is done to a batcher, in whatever order: while a handler may start, nothing is pending
after a shutdown, and enough items for a batch are pending otherwise only if they linger, there is
room for more, and a timer goes off within the linger time. The turn of a due timer leaves a slot
free only if too few items are pending. -/
theorem pending_with_free_slot (options : BatchOptions) (moves : List (Move Item)) :
    let session := sessionOf options moves
    session.batcher.options = options ∧
      (session.batcher.handlers < options.handlerLimit →
        (session.batcher.isShutdown = true → session.batcher.pending = []) ∧
          (session.batcher.isShutdown = false →
            options.lowerLimit ≤ session.batcher.pending.length →
            options.linger.isZero = false ∧ session.batcher.isFull = false ∧
              ∃ wakeAt, .timer wakeAt ∈ session.activities ∧
                wakeAt ≤ session.now + options.linger.nanos)) ∧
      ∀ place wakeAt contextFirst answer, session.activities[place]? = some (.timer wakeAt) →
        wakeAt ≤ session.now →
        let after := session.step (.turn place contextFirst answer)
        after.batcher.handlers < options.handlerLimit →
          after.batcher.pending.length < options.lowerLimit := by
  intro session
  have prompt : Prompt options session := prompt_sessionOf options moves
  refine ⟨prompt.built, fun free => ⟨prompt.drained free, fun running enough => ?_⟩,
    fun place wakeAt contextFirst answer found due =>
      length_pending_lt_of_due prompt.built found due contextFirst answer⟩
  obtain ⟨lingers, room, armed⟩ := prompt.lingering free running enough
  exact ⟨lingers, room, prompt.armed armed⟩

/-- An item waits for company until the timer goes off. -/
example :
    let session := sessionOf { linger := ⟨5⟩ } [.addNoWait 1 (), .elapse 5]
    let after := session.step (.turn 0 false .running)
    session.batcher.lingerArmed = true ∧ session.batcher.pending.length = 1 ∧
      after.batcher.lingerArmed = false ∧ after.batcher.pending.length = 0 ∧
      after.batcher.handlers = 1 := by
  decide +kernel

end Batcher
end PubSub
