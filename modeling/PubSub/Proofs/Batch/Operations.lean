import PubSub.Batch.Batcher

/-!
# What the operations of a batcher do

Batches leave a batcher through one door only: they are cut off the front of the
queue. `Handout` says what that leaves alone, whoever asked for it, and each operation
that hands out batches is described by it. Later modules use these descriptions and
do not open the operations again.
-/

namespace PubSub

namespace BatchOptions

variable {Item : Type} {options : BatchOptions}

/-- Batches are cut off the front of a queue, one after the other, and some items are left. -/
inductive Cuts (options : BatchOptions) :
    List (Entry Item) → List (List (Entry Item)) → List (Entry Item) → Prop
  | refl (queue : List (Entry Item)) : Cuts options queue [] queue
  | cut {queue rest : List (Entry Item)} {batches : List (List (Entry Item))}
      (nonempty : queue ≠ [])
      (later : Cuts options (options.cut 0 0 queue).2 batches rest) :
      Cuts options queue ((options.cut 0 0 queue).1 :: batches) rest

theorem Cuts.trans
    {queue middle rest : List (Entry Item)}
    {earlier later : List (List (Entry Item))}
    (first : Cuts options queue earlier middle)
    (second : Cuts options middle later rest) : Cuts options queue (earlier ++ later) rest := by
  induction first with
  | refl queue => exact second
  | cut nonempty later hypothesis => exact .cut nonempty (hypothesis second)

end BatchOptions

namespace Batcher

variable {Item : Type}

/-! ## Handing out batches -/

/-- Batches were cut off the front of a queue, one after the other. -/
structure Handout
    (before : Batcher Item)
    (batches : List (List (Entry Item)))
    (after : Batcher Item) : Prop where
  cuts : before.options.Cuts before.pending batches after.pending
  queue : batches.flatten ++ after.pending = before.pending
  nonempty : ∀ batch ∈ batches, batch ≠ []
  pendingBytes : after.pendingBytes = before.pendingBytes - bytesOf batches.flatten
  options : after.options = before.options
  nextId : after.nextId = before.nextId
  isShutdown : after.isShutdown = before.isShutdown
  answers : after.answers = before.answers
  withdrawn : after.withdrawn = before.withdrawn
  idleNotices : after.idleNotices = before.idleNotices

theorem bytesOf_append (left right : List (Entry Item)) :
    bytesOf (left ++ right) = bytesOf left + bytesOf right := by
  induction left with
  | nil => simp [bytesOf]
  | cons entry rest hypothesis => simp only [List.cons_append, bytesOf, hypothesis]; omega

namespace Handout

/-- Nothing was handed out. -/
theorem refl (batcher : Batcher Item) : Handout batcher [] batcher where
  cuts := .refl _
  queue := rfl
  nonempty := by simp
  pendingBytes := by simp [bytesOf]
  options := rfl
  nextId := rfl
  isShutdown := rfl
  answers := rfl
  withdrawn := rfl
  idleNotices := rfl

/-- Two handouts, one after the other. -/
theorem trans
    {first second third : Batcher Item}
    {earlier later : List (List (Entry Item))}
    (handout : Handout first earlier second)
    (next : Handout second later third) : Handout first (earlier ++ later) third where
  cuts := handout.cuts.trans (handout.options ▸ next.cuts)
  queue := by rw [List.flatten_append, List.append_assoc, next.queue, handout.queue]
  nonempty := by
    intro batch member
    rcases List.mem_append.mp member with member | member
    · exact handout.nonempty batch member
    · exact next.nonempty batch member
  pendingBytes := by
    rw [List.flatten_append, bytesOf_append, next.pendingBytes, handout.pendingBytes]
    omega
  options := next.options.trans handout.options
  nextId := next.nextId.trans handout.nextId
  isShutdown := next.isShutdown.trans handout.isShutdown
  answers := next.answers.trans handout.answers
  withdrawn := next.withdrawn.trans handout.withdrawn
  idleNotices := next.idleNotices.trans handout.idleNotices

variable {before after : Batcher Item} {batches : List (List (Entry Item))}

/-- What is pending afterwards was pending before. -/
theorem pending_suffix (handout : Handout before batches after) :
    after.pending <:+ before.pending := ⟨batches.flatten, handout.queue⟩

/-- The items of the batches were pending. -/
theorem mem_pending
    (handout : Handout before batches after)
    {batch : List (Entry Item)}
    {entry : Entry Item}
    (batchMember : batch ∈ batches)
    (member : entry ∈ batch) : entry ∈ before.pending := by
  rw [← handout.queue]
  exact List.mem_append_left _ (List.mem_flatten.mpr ⟨batch, batchMember, member⟩)

/-- From an empty queue nothing is handed out. -/
theorem batches_eq_nil
    (handout : Handout before batches after)
    (empty : before.pending = []) : batches = [] := by
  cases batches with
  | nil => rfl
  | cons batch rest =>
      have nothing := handout.queue
      rw [empty, List.flatten_cons, List.append_assoc] at nothing
      exact absurd (List.append_eq_nil_iff.mp nothing).1 (handout.nonempty batch (by simp))

end Handout

/-! ## Ready batches -/

/-- An item that waits for company of which there is none is not ready to be handed out. -/
theorem isReady_eq_false_iff {batcher : Batcher Item} {lingered : Bool} :
    batcher.isReady lingered = false ↔
      batcher.pending = [] ∨
        (batcher.isShutdown = false ∧
          (batcher.pending.length < batcher.options.lowerLimit ∨
            (lingered = false ∧ batcher.options.linger.isZero = false ∧
              batcher.isFull = false))) := by
  cases empty : batcher.pending with
  | nil => simp [isReady, empty]
  | cons entry rest =>
      simp only [isReady, empty, List.isEmpty_cons, Bool.not_false, Bool.true_and,
        Bool.or_eq_false_iff, Bool.and_eq_false_iff, decide_eq_false_iff_not, and_assoc]
      simp

/-- When nothing is ready that has lingered, fewer items are pending than a batch needs. -/
theorem length_pending_lt_of_isReady_eq_false
    {batcher : Batcher Item}
    (exhausted : batcher.isReady true = false) :
    batcher.pending.length < batcher.options.lowerLimit := by
  rcases isReady_eq_false_iff.mp exhausted with empty | ⟨_, few | ⟨impossible, _⟩⟩
  · rw [empty]
    exact batcher.options.lowerLimit_pos
  · exact few
  · contradiction

/-- A queue that has not grown reaches no limit that it did not reach before. -/
theorem isFull_eq_false_of_le
    {before after : Batcher Item}
    (options : after.options = before.options)
    (length : after.pending.length ≤ before.pending.length)
    (bytes : after.pendingBytes ≤ before.pendingBytes)
    (room : before.isFull = false) : after.isFull = false := by
  simp only [isFull, Bool.or_eq_false_iff, Bool.and_eq_false_iff, decide_eq_false_iff_not,
    options] at room ⊢
  omega

/-- A batch is taken exactly if one is ready. -/
theorem takeBatch_eq_none_iff {batcher : Batcher Item} {lingered : Bool} :
    batcher.takeBatch lingered = none ↔ batcher.isReady lingered = false := by
  unfold takeBatch
  split
  next ready => simp [ready]
  next idle => simpa using idle

theorem cut_ne_nil (options : BatchOptions) {queue : List (Entry Item)} (nonempty : queue ≠ []) :
    (options.cut 0 0 queue).1 ≠ [] := by
  cases queue with
  | nil => contradiction
  | cons front rest => simp [BatchOptions.cut_cons]

/-- Taking a batch is a handout that leaves the handlers and the timer alone. -/
theorem takeBatch_eq_some
    {batcher rest : Batcher Item}
    {lingered : Bool}
    {batch : List (Entry Item)}
    (taken : batcher.takeBatch lingered = some (batch, rest)) :
    batcher.isReady lingered = true ∧ Handout batcher [batch] rest ∧
      rest.handlers = batcher.handlers ∧ rest.lingerArmed = batcher.lingerArmed := by
  unfold takeBatch at taken
  split at taken
  next ready =>
    cases taken
    have present : batcher.pending ≠ [] := by
      intro empty
      simp [isReady, empty] at ready
    refine ⟨ready, ?_, rfl, rfl⟩
    exact
      { cuts := .cut present (.refl _)
        queue := by simpa using batcher.options.cut_append 0 0 batcher.pending
        nonempty := by simpa using cut_ne_nil batcher.options present
        pendingBytes := by simp
        options := rfl
        nextId := rfl
        isShutdown := rfl
        answers := rfl
        withdrawn := rfl
        idleNotices := rfl }
  next => contradiction

/-! ## Dispatching -/

/-- Starting batches is a handout with one handler for each batch. It ends when no slot is
free or no batch is ready. -/
theorem startBatches_handout (batcher : Batcher Item) (lingered : Bool) :
    let started := batcher.startBatches lingered
    Handout batcher started.1 started.2 ∧
      started.2.handlers = batcher.handlers + started.1.length ∧
      started.2.lingerArmed = batcher.lingerArmed ∧
      (started.2.handlers < started.2.options.handlerLimit →
        started.2.isReady lingered = false) := by
  fun_induction startBatches batcher lingered with
  | case1 batcher free exhausted =>
      exact ⟨.refl _, by simp, rfl, fun _ => takeBatch_eq_none_iff.mp exhausted⟩
  | case2 batcher free batch rest taken shorter later hypothesis =>
      obtain ⟨_, handout, handlers, lingerArmed⟩ := takeBatch_eq_some taken
      have first : Handout batcher [batch] { rest with handlers := rest.handlers + 1 } :=
        { handout with }
      obtain ⟨others, count, armed, settled⟩ := hypothesis
      refine ⟨first.trans others, ?_, armed.trans lingerArmed, settled⟩
      change later.2.handlers = rest.handlers + 1 + later.1.length at count
      rw [count, handlers, List.length_cons]
      omega
  | case3 batcher busy => exact ⟨.refl _, by simp, rfl, fun free => absurd free busy⟩

/-- Starting batches starts no handler beyond the limit. -/
theorem handlers_startBatches_le (batcher : Batcher Item) (lingered : Bool) :
    (batcher.startBatches lingered).2.handlers ≤
      max batcher.handlers batcher.options.handlerLimit := by
  fun_induction startBatches batcher lingered with
  | case1 batcher free exhausted => exact Nat.le_max_left _ _
  | case2 batcher free batch rest taken shorter later hypothesis =>
      obtain ⟨_, handout, handlers, _⟩ := takeBatch_eq_some taken
      change later.2.handlers ≤ max (rest.handlers + 1) rest.options.handlerLimit at hypothesis
      rw [handlers, handout.options] at hypothesis
      show later.2.handlers ≤ _
      omega
  | case3 batcher busy => exact Nat.le_max_left _ _

/-- Every batch was ready when its turn came. -/
theorem startBatches_ready
    (batcher : Batcher Item)
    (lingered : Bool)
    (batch : List (Entry Item))
    (later : List (List (Entry Item))) :
    ∀ earlier, (batcher.startBatches lingered).1 = earlier ++ batch :: later →
      ∃ middle, Handout batcher earlier middle ∧ middle.isReady lingered = true ∧
        Handout middle (batch :: later) (batcher.startBatches lingered).2 := by
  fun_induction startBatches batcher lingered with
  | case1 batcher free exhausted =>
      intro earlier split
      cases earlier <;> contradiction
  | case2 batcher free first rest taken shorter others hypothesis =>
      obtain ⟨ready, handout, -⟩ := takeBatch_eq_some taken
      have handed : Handout batcher [first] { rest with handlers := rest.handlers + 1 } :=
        { handout with }
      intro earlier split
      cases earlier with
      | nil =>
          obtain ⟨rfl, rfl⟩ := List.cons.inj split
          exact ⟨batcher, .refl _, ready, handed.trans (startBatches_handout _ lingered).1⟩
      | cons other earlier =>
          obtain ⟨rfl, same⟩ := List.cons.inj split
          obtain ⟨middle, before, ready, after⟩ := hypothesis earlier same
          exact ⟨middle, handed.trans before, ready, after⟩
  | case3 batcher busy =>
      intro earlier split
      cases earlier <;> contradiction

/-- Everything a step that hands out batches does to the batcher. -/
structure Dispatched
    (before : Batcher Item)
    (lingered : Bool)
    (dispatch : Dispatch Item) : Prop
    extends Handout before dispatch.started dispatch.batcher where
  /-- Every batch was ready when its turn came. -/
  ready : ∀ batch later earlier, dispatch.started = earlier ++ batch :: later →
    ∃ middle, Handout before earlier middle ∧ middle.isReady lingered = true ∧
      Handout middle (batch :: later) dispatch.batcher
  handlers : dispatch.batcher.handlers = before.handlers + dispatch.started.length
  limited : dispatch.batcher.handlers ≤ max before.handlers before.options.handlerLimit
  lingerArmed : dispatch.batcher.lingerArmed = (before.lingerArmed || dispatch.armed)
  /-- A timer is armed only if none is running. -/
  unarmed : dispatch.armed = true → before.lingerArmed = false
  /-- A free slot is left only if nothing is ready. -/
  settled :
    dispatch.batcher.handlers < before.options.handlerLimit →
      dispatch.batcher.isReady lingered = false
  /-- Items that wait although a slot is free are watched by a timer. -/
  watched :
    dispatch.batcher.handlers < before.options.handlerLimit →
      dispatch.batcher.pending ≠ [] →
      before.isShutdown = false →
      before.options.linger.isZero = false →
      dispatch.batcher.lingerArmed = true

theorem dispatched_dispatch (batcher : Batcher Item) (lingered : Bool) :
    Dispatched batcher lingered (batcher.dispatch lingered) := by
  obtain ⟨handout, handlers, lingerArmed, settled⟩ := startBatches_handout batcher lingered
  rw [handout.options] at settled
  have limited := handlers_startBatches_le batcher lingered
  have ready := startBatches_ready batcher lingered
  unfold dispatch
  simp only
  split
  next needed =>
    have unarmed : batcher.lingerArmed = false := by
      simp only [needsLinger, Bool.and_eq_true, Bool.not_eq_true'] at needed
      exact lingerArmed.symm.trans needed.2
    exact
      { handout with
        ready := by
          intro batch later earlier split
          obtain ⟨middle, before, isReady, after⟩ := ready batch later earlier split
          exact ⟨middle, before, isReady, { after with }⟩
        handlers
        limited
        lingerArmed := by simp
        unarmed := fun _ => unarmed
        settled := settled
        watched := fun _ _ _ _ => rfl }
  next unneeded =>
    refine
      { handout with
        ready
        handlers
        limited
        lingerArmed := by simpa using lingerArmed
        unarmed := nofun
        settled := settled
        watched := ?_ }
    intro free present running lingering
    simp only [needsLinger, handout.options, handout.isShutdown] at unneeded
    simpa [free, present, running, lingering] using unneeded

/-! ## Accepting and taking back -/

/-- An accepted item gets the next number and joins the end of the queue; then whatever is
ready is handed out. -/
theorem accept_eq_ok
    {batcher : Batcher Item}
    {size id : Nat}
    {item : Item}
    {dispatch : Dispatch Item}
    (accepted : batcher.accept size item = .ok (id, dispatch)) :
    id = batcher.nextId ∧ batcher.isShutdown = false ∧
      Dispatched
        { batcher with
          pending := batcher.pending ++ [{ id, item, size }]
          pendingBytes := batcher.pendingBytes + size
          nextId := batcher.nextId + 1 }
        false dispatch := by
  unfold accept at accepted
  split at accepted
  next => contradiction
  next =>
    split at accepted
    next => contradiction
    next running =>
      cases accepted
      exact ⟨rfl, by simpa using running, dispatched_dispatch _ _⟩

/-- No item is accepted that alone exceeds the bytes a batch may have. -/
theorem size_le_of_accept_eq_ok
    {batcher : Batcher Item}
    {size : Nat}
    {item : Item}
    {accepted : Nat × Dispatch Item}
    (same : batcher.accept size item = .ok accepted) :
    batcher.options.maxBytes = 0 ∨ size ≤ batcher.options.maxBytes := by
  unfold accept at same
  split at same
  next => contradiction
  next fitting =>
    simp only [Bool.and_eq_true, decide_eq_true_eq] at fitting
    omega

/-- A look whether a batcher is idle changes its notices only. -/
theorem noteIdle_eq (batcher : Batcher Item) :
    batcher.noteIdle =
      { batcher with idleNotices := batcher.idleNotices + if batcher.isIdle then 1 else 0 } := by
  unfold noteIdle
  split <;> simp [*]

/-- An item that is not pending cannot be taken back. -/
theorem withdraw_of_forall_ne
    {batcher : Batcher Item}
    {id : Nat}
    (absent : ∀ entry ∈ batcher.pending, entry.id ≠ id) : batcher.withdraw id = batcher := by
  have notFound : batcher.pending.find? (·.id == id) = none := by simpa using absent
  simp [withdraw, notFound]

/-- The item that is found is the one that is erased. -/
theorem size_add_bytesOf_eraseP
    {queue : List (Entry Item)}
    {property : Entry Item → Bool}
    {entry : Entry Item}
    (found : queue.find? property = some entry) :
    entry.size + bytesOf (queue.eraseP property) = bytesOf queue := by
  induction queue with
  | nil => contradiction
  | cons front rest hypothesis =>
      cases holds : property front with
      | true =>
          rw [List.find?_cons_of_pos holds] at found
          cases found
          rw [List.eraseP_cons_of_pos holds, bytesOf]
      | false =>
          have unholds : ¬property front = true := by simp [holds]
          rw [List.find?_cons_of_neg unholds] at found
          rw [List.eraseP_cons_of_neg unholds, bytesOf, bytesOf, ← hypothesis found]
          omega

/-- A pending item that is taken back leaves the queue, and its bytes with it. -/
theorem withdraw_of_mem
    {batcher : Batcher Item}
    {id : Nat}
    (present : ∃ entry ∈ batcher.pending, entry.id = id) :
    ∃ size, size + bytesOf (batcher.pending.eraseP (·.id == id)) = bytesOf batcher.pending ∧
      batcher.withdraw id =
        noteIdle
          { batcher with
            pending := batcher.pending.eraseP (·.id == id)
            pendingBytes := batcher.pendingBytes - size
            withdrawn := id :: batcher.withdrawn } := by
  obtain ⟨entry, member, same⟩ := present
  cases found : batcher.pending.find? (·.id == id) with
  | none =>
      rw [List.find?_eq_none] at found
      exact absurd (by simpa using same) (found entry member)
  | some first =>
      exact ⟨first.size, size_add_bytesOf_eraseP found, by simp [withdraw, found]⟩

/-! ## Handlers -/

/-- A handler takes the next batch as a handout of one, or stops because none is ready. -/
theorem nextBatch_cases (batcher : Batcher Item) :
    (∃ next rest, batcher.nextBatch = (some next, rest) ∧ batcher.isReady true = true ∧
        Handout batcher [next] rest ∧ rest.handlers = batcher.handlers ∧
        rest.lingerArmed = batcher.lingerArmed) ∨
      (batcher.nextBatch = (none, noteIdle { batcher with handlers := batcher.handlers - 1 }) ∧
        batcher.isReady true = false) := by
  unfold nextBatch
  cases taken : batcher.takeBatch true with
  | none => exact .inr ⟨rfl, takeBatch_eq_none_iff.mp taken⟩
  | some parts =>
      obtain ⟨next, rest⟩ := parts
      exact .inl ⟨next, rest, rfl, takeBatch_eq_some taken⟩

end Batcher
end PubSub
