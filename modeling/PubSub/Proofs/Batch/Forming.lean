import PubSub.Proofs.Batch.Counters

/-!
# What batches are made of

A batch is ready if the batcher is shut down and an item is pending, or if enough items are pending
and they have lingered, need not linger, or reach a limit. Nothing but the batch leaves the queue.

A batch is the longest front of the queue that is within both limits. `BatchOptions.cut` goes
through the queue item by item and stops at the first that has no room, so the limits are stated for
the items and bytes that a batch has so far: `Within`, which is what room for one more item means.
The first item is the exception, because it is taken whatever its size. A batcher accepts no item
that exceeds the bytes of a batch alone, so the exception never counts in a session.
-/

namespace PubSub
namespace BatchOptions

variable {Item : Type} {options : BatchOptions}

/-- Whether a batch of so many items and bytes is within the limits. -/
def Within (options : BatchOptions) (count bytes : Nat) : Prop :=
  (options.maxSize = 0 ∨ count ≤ options.maxSize) ∧
    (options.maxBytes = 0 ∨ bytes ≤ options.maxBytes)

/-- Whether a batch is within the limits. -/
def Fits (options : BatchOptions) (batch : List (Entry Item)) : Prop :=
  options.Within batch.length (Batcher.bytesOf batch)

/-- The longest front of a queue that is within the limits. -/
structure IsLongest (options : BatchOptions) (queue batch : List (Entry Item)) : Prop where
  nonempty : batch ≠ []
  front : batch <+: queue
  fits : options.Fits batch
  longest : ∀ other, other <+: queue → options.Fits other → other.length ≤ batch.length

/-! ## Room for one more item -/

theorem Within.mono
    {count bytes fewer less : Nat}
    (within : options.Within count bytes)
    (count_le : fewer ≤ count)
    (bytes_le : less ≤ bytes) : options.Within fewer less := by
  unfold Within at within ⊢
  omega

/-- A batch with an item has room for another one if it stays within the limits. -/
theorem hasRoom_iff
    {count bytes size : Nat}
    (started : 0 < count) :
    options.hasRoom count bytes size = true ↔ options.Within (count + 1) (bytes + size) := by
  simp only [hasRoom, Within, Bool.and_eq_true, Bool.not_eq_true', Bool.and_eq_false_iff,
    decide_eq_false_iff_not]
  omega

/-- One item is within the limits if it does not exceed the bytes of a batch. -/
theorem within_one_iff {size : Nat} :
    options.Within 1 size ↔ options.maxBytes = 0 ∨ size ≤ options.maxBytes := by
  unfold Within
  omega

/-! ## Cutting -/

theorem cut_of_hasRoom
    {count bytes : Nat}
    {front : Entry Item}
    {rest : List (Entry Item)}
    (room : options.hasRoom count bytes front.size = true) :
    options.cut count bytes (front :: rest) =
      (front :: (options.cut (count + 1) (bytes + front.size) rest).1,
        (options.cut (count + 1) (bytes + front.size) rest).2) := by
  rw [cut, if_pos room]

theorem cut_of_not_hasRoom
    {count bytes : Nat}
    {front : Entry Item}
    {rest : List (Entry Item)}
    (full : ¬options.hasRoom count bytes front.size = true) :
    options.cut count bytes (front :: rest) = ([], front :: rest) := by
  rw [cut, if_neg full]

/-- A batch that is within the limits stays there while items are added to it. -/
theorem within_cut
    {count bytes : Nat}
    (started : 0 < count)
    (within : options.Within count bytes)
    (queue : List (Entry Item)) :
    options.Within (count + (options.cut count bytes queue).1.length)
      (bytes + Batcher.bytesOf (options.cut count bytes queue).1) := by
  induction queue generalizing count bytes with
  | nil => exact within
  | cons front rest hypothesis =>
      by_cases room : options.hasRoom count bytes front.size = true
      · have more := hypothesis (Nat.add_one_pos count) ((hasRoom_iff started).mp room)
        rw [cut_of_hasRoom room, List.length_cons, Batcher.bytesOf]
        exact more.mono (by omega) (by omega)
      · rw [cut_of_not_hasRoom room]
        exact within

/-- No longer front of the queue could have been added. -/
theorem length_le_length_cut
    {count bytes : Nat}
    (started : 0 < count)
    (queue : List (Entry Item)) :
    ∀ other, other <+: queue →
      options.Within (count + other.length) (bytes + Batcher.bytesOf other) →
      other.length ≤ (options.cut count bytes queue).1.length := by
  induction queue generalizing count bytes with
  | nil =>
      intro other isFront _
      rw [List.prefix_nil.mp isFront]
      exact Nat.zero_le _
  | cons front rest hypothesis =>
      intro other isFront within
      cases other with
      | nil => exact Nat.zero_le _
      | cons head tail =>
          obtain ⟨rfl, tailFront⟩ := List.cons_prefix_cons.mp isFront
          rw [List.length_cons, Batcher.bytesOf] at within
          have room : options.hasRoom count bytes head.size = true :=
            (hasRoom_iff started).mpr (within.mono (by omega) (by omega))
          have others := hypothesis (Nat.add_one_pos count) tail tailFront
            (within.mono (by omega) (Nat.le_of_eq (Nat.add_assoc ..)))
          rw [cut_of_hasRoom room, List.length_cons, List.length_cons]
          exact Nat.succ_le_succ others

/-- The item before which a batch ends has no room in it. -/
theorem not_within_of_cut
    {count bytes : Nat}
    (started : 0 < count)
    {queue right : List (Entry Item)}
    {next : Entry Item}
    (left : (options.cut count bytes queue).2 = next :: right) :
    ¬options.Within (count + (options.cut count bytes queue).1.length + 1)
      (bytes + Batcher.bytesOf (options.cut count bytes queue).1 + next.size) := by
  induction queue generalizing count bytes with
  | nil => contradiction
  | cons front rest hypothesis =>
      by_cases room : options.hasRoom count bytes front.size = true
      · rw [cut_of_hasRoom room] at left ⊢
        have full := hypothesis (Nat.add_one_pos count) left
        rw [List.length_cons, Batcher.bytesOf]
        exact fun within => full (within.mono (by omega) (by omega))
      · rw [cut_of_not_hasRoom room] at left ⊢
        cases left
        exact fun within => room ((hasRoom_iff started).mpr within)

/-! ## Whole batches -/

variable {queue : List (Entry Item)}

section Front

variable {first : Entry Item} {rest : List (Entry Item)}

theorem isLongest_of_within_one
    (fits : options.Within 1 first.size) :
    options.IsLongest (first :: rest) (options.cut 0 0 (first :: rest)).1 := by
  rw [cut_cons]
  refine ⟨List.cons_ne_nil _ _, ?start, ?fits, ?longest⟩
  case start => exact List.cons_prefix_cons.mpr ⟨rfl, _, options.cut_append 1 first.size rest⟩
  case fits =>
    have within := within_cut Nat.one_pos fits rest
    exact within.mono (Nat.le_of_eq (Nat.add_comm ..)) (Nat.le_refl _)
  case longest =>
    intro other isFront within
    cases other with
    | nil => exact Nat.zero_le _
    | cons head tail =>
        obtain ⟨rfl, tailFront⟩ := List.cons_prefix_cons.mp isFront
        have others := length_le_length_cut Nat.one_pos rest tail tailFront
          (within.mono (Nat.le_of_eq (Nat.add_comm ..)) (Nat.le_refl _))
        exact Nat.succ_le_succ others

/-- Nothing joins an item that exceeds the limits alone. -/
theorem cut_of_not_within_one
    (exceeds : ¬options.Within 1 first.size) :
    (options.cut 0 0 (first :: rest)).1 = [first] := by
  rw [cut_cons]
  cases rest with
  | nil => rfl
  | cons second rest =>
      have full : ¬options.hasRoom 1 first.size second.size = true := by
        rw [hasRoom_iff Nat.one_pos]
        exact fun within => exceeds (within.mono (by omega) (by omega))
      rw [cut_of_not_hasRoom full]

end Front

/-- A batch is the longest front of the queue within the limits, unless its first item exceeds them
alone. Then it is this item. -/
theorem isLongest_or_eq_singleton
    (nonempty : queue ≠ []) :
    options.IsLongest queue (options.cut 0 0 queue).1 ∨
      ∃ first, (options.cut 0 0 queue).1 = [first] ∧
        0 < options.maxBytes ∧ options.maxBytes < first.size := by
  cases queue with
  | nil => contradiction
  | cons first rest =>
      by_cases fits : options.Within 1 first.size
      · exact .inl (isLongest_of_within_one fits)
      · refine .inr ⟨first, cut_of_not_within_one fits, ?_⟩
        rw [within_one_iff] at fits
        omega

/-- The items that are left behind a batch begin with one that has no room in it. -/
theorem not_within_of_cut_eq
    {next : Entry Item}
    {right : List (Entry Item)}
    (left : (options.cut 0 0 queue).2 = next :: right) :
    ¬options.Within ((options.cut 0 0 queue).1.length + 1)
      (Batcher.bytesOf (options.cut 0 0 queue).1 + next.size) := by
  cases queue with
  | nil => contradiction
  | cons first rest =>
      rw [cut_cons] at left ⊢
      have full := not_within_of_cut Nat.one_pos left
      rw [List.length_cons, Batcher.bytesOf]
      exact fun within => full (within.mono (by omega) (Nat.le_refl _))

/-- Batches of items that do not exceed the bytes of a batch alone are the longest within the
limits. -/
theorem isLongest_cut
    (nonempty : queue ≠ [])
    (fit : ∀ entry ∈ queue, options.Fits [entry]) :
    options.IsLongest queue (options.cut 0 0 queue).1 := by
  rcases isLongest_or_eq_singleton nonempty with longest | ⟨first, lone, limited, exceeds⟩
  · exact longest
  · have member : first ∈ queue := by
      rw [← options.cut_append 0 0 queue, lone]
      exact List.mem_append_left _ (List.mem_singleton_self first)
    have fits : options.maxBytes = 0 ∨ first.size ≤ options.maxBytes :=
      within_one_iff.mp (fit first member)
    omega

/-- Batches that are cut off one after the other are within the limits. -/
theorem Cuts.fits
    {rest : List (Entry Item)}
    {batches : List (List (Entry Item))}
    (cuts : options.Cuts queue batches rest)
    (fit : ∀ entry ∈ queue, options.Fits [entry]) :
    ∀ batch ∈ batches, batch ≠ [] ∧ options.Fits batch := by
  induction cuts with
  | refl queue =>
      intro batch member
      contradiction
  | @cut queue _ _ nonempty _ hypothesis =>
      have longest := isLongest_cut nonempty fit
      have others := hypothesis fun entry member => fit entry <| by
        rw [← options.cut_append 0 0 queue]
        exact List.mem_append_right _ member
      exact List.forall_mem_cons.mpr ⟨⟨longest.nonempty, longest.fits⟩, others⟩

/-! ## Batches with no room left -/

/-- Why a batch has no room for another item, from the items that are left behind it: it has all
the items or all the bytes that a batch may have, or the next item would exceed the bytes. -/
inductive Filled (options : BatchOptions) (batch left : List (Entry Item)) : Prop
  | items (limited : 0 < options.maxSize) (all : batch.length = options.maxSize)
  | bytes (limited : 0 < options.maxBytes) (all : Batcher.bytesOf batch = options.maxBytes)
  | next {next : Entry Item}
      (limited : 0 < options.maxBytes)
      (follows : left.head? = some next)
      (exceeds : options.maxBytes < Batcher.bytesOf batch + next.size)

/-- Unless it is empty, no item may join the batch: not the next one, and none at all if there is no
next one. -/
theorem Filled.not_fits
    {batch left : List (Entry Item)}
    (filled : options.Filled batch left)
    {extra : Entry Item}
    (positive : 0 < extra.size)
    (turn : ∀ next, left.head? = some next → extra = next) :
    ¬options.Fits (batch ++ [extra]) := by
  intro fits
  simp only [Fits, Within, List.length_append, List.length_singleton, Batcher.bytesOf_append,
    Batcher.bytesOf] at fits
  cases filled with
  | items limited all => omega
  | bytes limited all => omega
  | next limited follows exceeds =>
      rw [turn _ follows] at fits
      omega

end BatchOptions

namespace Batcher

variable {Item : Type} {options : BatchOptions}

/-- When a batch may be handed out. -/
theorem isReady_iff {batcher : Batcher Item} {lingered : Bool} :
    batcher.isReady lingered = true ↔
      batcher.pending ≠ [] ∧
        (batcher.isShutdown = true ∨
          (max batcher.options.minSize 1 ≤ batcher.pending.length ∧
            (lingered = true ∨ batcher.options.linger.isZero = true ∨
              batcher.isFull = true))) := by
  simp only [isReady, Bool.and_eq_true, Bool.or_eq_true, Bool.not_eq_true',
    List.isEmpty_eq_false_iff, decide_eq_true_eq, or_assoc]
  rfl

/-- A batch off a queue that reaches a limit has no room left. -/
theorem filled_of_isFull
    {batcher : Batcher Item}
    (full : batcher.isFull = true)
    (weighed : batcher.Weighed)
    (nonempty : batcher.pending ≠ [])
    (fit : ∀ entry ∈ batcher.pending, batcher.options.Fits [entry]) :
    batcher.options.Filled (batcher.options.cut 0 0 batcher.pending).1
      (batcher.options.cut 0 0 batcher.pending).2 := by
  have fits : batcher.options.Fits (batcher.options.cut 0 0 batcher.pending).1 :=
    (BatchOptions.isLongest_cut nonempty fit).fits
  cases left : (batcher.options.cut 0 0 batcher.pending).2 with
  | nil =>
      -- The batch is the whole queue, which has a limit's worth of items or of bytes.
      have whole := batcher.options.cut_append 0 0 batcher.pending
      rw [left, List.append_nil] at whole
      rw [whole] at fits ⊢
      simp only [BatchOptions.Fits, BatchOptions.Within] at fits
      simp only [isFull, Bool.or_eq_true, Bool.and_eq_true, decide_eq_true_eq] at full
      rw [weighed] at full
      rcases full with ⟨limited, reached⟩ | ⟨limited, reached⟩
      · exact .items limited (by omega)
      · exact .bytes limited (by omega)
  | cons next right =>
      have exceeded := BatchOptions.not_within_of_cut_eq left
      simp only [BatchOptions.Fits, BatchOptions.Within] at fits exceeded
      by_cases items : 0 < batcher.options.maxSize ∧
          (batcher.options.cut 0 0 batcher.pending).1.length = batcher.options.maxSize
      · exact .items items.1 items.2
      · exact .next (by omega) rfl (by omega)

/-- Without the linger time, batches are handed out only with no room left. -/
theorem Dispatched.filled
    {before : Batcher Item}
    {dispatch : Dispatch Item}
    (dispatched : Dispatched before false dispatch)
    (running : before.isShutdown = false)
    (lingers : before.options.linger.isZero = false)
    (weighed : before.Weighed)
    (fit : ∀ entry ∈ before.pending, before.options.Fits [entry])
    {earlier later : List (List (Entry Item))}
    {batch : List (Entry Item)}
    (split : dispatch.started = earlier ++ batch :: later) :
    before.options.Filled batch (later.flatten ++ dispatch.batcher.pending) := by
  obtain ⟨middle, handed, ready, others⟩ := dispatched.ready batch later earlier split
  obtain ⟨nonempty, reason⟩ := isReady_iff.mp ready
  simp only [handed.options, handed.isShutdown, running, lingers, Bool.false_eq_true,
    false_or] at reason
  have filled := filled_of_isFull reason.2 (handed.weighed weighed) nonempty <| by
    intro entry member
    rw [handed.options]
    exact fit entry (handed.pending_suffix.subset member)
  have queue := others.queue
  rw [List.flatten_cons, List.append_assoc] at queue
  cases others.cuts with
  | cut =>
      have left := List.append_cancel_left
        (queue.trans (middle.options.cut_append 0 0 middle.pending).symm)
      rw [left, ← handed.options]
      exact filled

/-! ## The batches of a session -/

/-- No pending item exceeds the bytes of a batch alone, and every batch that was taken is within
the limits. -/
structure Formed (options : BatchOptions) (session : Session Item) : Prop where
  pending : ∀ entry ∈ session.batcher.pending, options.Fits [entry]
  taken : ∀ batch ∈ session.taken, batch ≠ [] ∧ options.Fits batch

namespace Formed

variable {before after : Session Item}

theorem create (options : BatchOptions) : Formed options (.create options : Session Item) where
  pending entry member := by contradiction
  taken batch member := by contradiction

/-- Only the queue and the batches matter. -/
theorem congr
    (formed : Formed options before)
    (pending : after.batcher.pending ⊆ before.batcher.pending)
    (taken : after.taken = before.taken) : Formed options after where
  pending entry member := formed.pending entry (pending member)
  taken := taken ▸ formed.taken

theorem enqueued
    (formed : Formed options before)
    {entry : Entry Item}
    (fitting : options.maxBytes = 0 ∨ entry.size ≤ options.maxBytes)
    (pending : after.batcher.pending = before.batcher.pending ++ [entry])
    (taken : after.taken = before.taken) : Formed options after where
  pending other member := by
    rw [pending, List.mem_append] at member
    rcases member with earlier | new
    · exact formed.pending other earlier
    · obtain rfl := List.mem_singleton.mp new
      exact BatchOptions.within_one_iff.mpr fitting
  taken := taken ▸ formed.taken

theorem handedOut
    (formed : Formed options before)
    {batches : List (List (Entry Item))}
    (built : before.batcher.options = options)
    (handout : Handout before.batcher batches after.batcher)
    (taken : after.taken = before.taken ++ batches) : Formed options after where
  pending entry member := formed.pending entry (handout.pending_suffix.subset member)
  taken batch member := by
    rw [taken, List.mem_append] at member
    rcases member with earlier | new
    · exact formed.taken batch earlier
    · exact (built ▸ handout.cuts).fits formed.pending batch new

theorem opening
    {middle : Session Item}
    {lingered : Bool}
    (opening : Opening before middle lingered)
    (built : before.batcher.options = options)
    (formed : Formed options before) : Formed options middle := by
  cases opening with
  | accepted _ _ _ fitting => exact formed.enqueued (built ▸ fitting) rfl (by simp)
  | acceptedAlone _ _ fitting => exact formed.enqueued (built ▸ fitting) rfl (by simp)
  | rang => exact formed.congr (List.Subset.refl _) rfl
  | flushBegan => exact formed.congr (List.Subset.refl _) rfl

theorem change
    (change : Change before after)
    (counted : Counted options before)
    (formed : Formed options before) : Formed options after := by
  cases change with
  | handedOut opening dispatched =>
      exact (formed.opening opening counted.built).handedOut (counted.opening opening).built
        dispatched.toHandout (by simp)
  | withdrew =>
      refine formed.congr ?_ (by simp)
      simpa [noteIdle_eq, without] using List.eraseP_subset
  | wentOn _ _ handout => exact formed.handedOut counted.built handout (by simp)
  | stopped => exact formed.congr (by simp [noteIdle_eq]) rfl
  | _ => exact formed.congr (List.Subset.refl _) (by simp)

end Formed

theorem formed_sessionOf (options : BatchOptions) (moves : List (Move Item)) :
    Formed options (sessionOf options moves) := by
  apply sessionOf_induction (.create options)
  intro earlier after change formed
  exact formed.change change (counted_sessionOf options earlier)

/-- A batch is taken exactly if one is ready, and it is the longest front of the queue within the
limits, or a first item that exceeds them alone. In a session this exception never counts, and the
handler is only called with batches that are nonempty and within both limits. -/
theorem batch_is_longest_front :
    (∀ (batcher : Batcher Item) (lingered : Bool),
      ((batcher.takeBatch lingered).isSome = true ↔
        batcher.pending ≠ [] ∧
          (batcher.isShutdown = true ∨
            (max batcher.options.minSize 1 ≤ batcher.pending.length ∧
              (lingered = true ∨ batcher.options.linger.isZero = true ∨
                batcher.isFull = true)))) ∧
      ∀ batch rest, batcher.takeBatch lingered = some (batch, rest) →
        (batcher.options.IsLongest batcher.pending batch ∨
          ∃ first, batch = [first] ∧
            0 < batcher.options.maxBytes ∧ batcher.options.maxBytes < first.size) ∧
        ∃ others, batch ++ others = batcher.pending ∧
          rest =
            { batcher with
              pending := others
              pendingBytes := batcher.pendingBytes - bytesOf batch }) ∧
    ∀ (options : BatchOptions) (moves : List (Move Item)),
      let session := sessionOf options moves
      (∀ lingered batch rest, session.batcher.takeBatch lingered = some (batch, rest) →
        options.IsLongest session.batcher.pending batch ∧
          rest.pendingBytes + bytesOf batch = session.batcher.pendingBytes) ∧
      ∀ batch ∈ session.called, batch ≠ [] ∧ options.Fits batch := by
  refine ⟨fun batcher lingered => ⟨?taken, fun batch rest same => ?parts⟩,
    fun options moves => ⟨fun lingered batch rest same => ?sound, fun batch member => ?called⟩⟩
  case taken =>
    rw [← isReady_iff, takeBatch]
    split <;> simp [*]
  case parts =>
    have nonempty : batcher.pending ≠ [] := (isReady_iff.mp (takeBatch_eq_some same).1).1
    rw [takeBatch, if_pos (takeBatch_eq_some same).1] at same
    cases same
    exact ⟨BatchOptions.isLongest_or_eq_singleton nonempty, _, batcher.options.cut_append ..,
      rfl⟩
  case sound =>
    have formed : Formed options (sessionOf options moves) := formed_sessionOf options moves
    have counted : Counted options (sessionOf options moves) := counted_sessionOf options moves
    obtain ⟨ready, handout, -⟩ := takeBatch_eq_some same
    have bytes := handout.pendingBytes_add counted.weighed
    rw [List.flatten_singleton] at bytes
    refine ⟨?_, bytes⟩
    rw [takeBatch, if_pos ready] at same
    cases same
    rw [counted.built]
    exact BatchOptions.isLongest_cut (isReady_iff.mp ready).1 formed.pending
  case called =>
    exact (formed_sessionOf options moves).taken batch
      ((tallied_sessionOf options moves).mem_taken_of_called member)

/-- An item is accepted by a change that then hands out what is ready without lingering. -/
theorem Change.opening_of_accepted
    {before after : Session Item}
    (change : Change before after)
    (accepted : after.accepted ≠ before.accepted) :
    ∃ middle dispatch, Opening before middle false ∧ middle.batcher.isShutdown = false ∧
      middle.taken = before.taken ∧ Dispatched middle.batcher false dispatch ∧
      after = middle.handOut dispatch := by
  cases change with
  | handedOut opening dispatched =>
      cases opening with
      | accepted split numbered running fitting =>
          exact ⟨_, _, .accepted split numbered running fitting, running, by simp, dispatched, rfl⟩
      | acceptedAlone numbered running fitting =>
          exact ⟨_, _, .acceptedAlone numbered running fitting, running, by simp, dispatched, rfl⟩
      | rang => exact absurd (by simp) accepted
      | flushBegan => exact absurd (by simp) accepted
  | _ => exact absurd (by simp) accepted

/-- Items that linger are not handed out too early: whatever is done to a batcher with a linger
time, in whatever order, each batch that is handed out because an item is accepted has no room left
for one more, of which it says why. In particular no item that is not empty could have joined it in
its turn. -/
theorem handed_out_at_once_is_filled
    {options : BatchOptions}
    (lingers : options.linger.isZero = false)
    (moves : List (Move Item))
    {move : Move Item}
    {entry : Entry Item}
    (accepted : (sessionOf options (moves ++ [move])).accepted =
      (sessionOf options moves).accepted ++ [entry])
    {earlier later : List (List (Entry Item))}
    {batch : List (Entry Item)}
    (taken : (sessionOf options (moves ++ [move])).taken =
      (sessionOf options moves).taken ++ (earlier ++ batch :: later)) :
    let left := later.flatten ++ (sessionOf options (moves ++ [move])).batcher.pending
    options.Filled batch left ∧
      ∀ extra : Entry Item, 0 < extra.size →
        (∀ next, left.head? = some next → extra = next) → ¬options.Fits (batch ++ [extra]) := by
  have formed : Formed options (sessionOf options moves) := formed_sessionOf options moves
  have counted : Counted options (sessionOf options moves) := counted_sessionOf options moves
  rw [sessionOf_append_singleton] at accepted taken ⊢
  obtain ⟨middle, dispatch, opening, running, same, dispatched, handedOut⟩ :=
    (change_step (sessionOf options moves) move).opening_of_accepted (by rw [accepted]; simp)
  have formed := formed.opening opening counted.built
  have counted := counted.opening opening
  have started : dispatch.started = earlier ++ batch :: later := by
    have after : (middle.handOut dispatch).taken = middle.taken ++ dispatch.started := by simp
    rw [handedOut, after, same] at taken
    exact List.append_cancel_left taken
  have filled := dispatched.filled running (counted.built ▸ lingers) counted.weighed
    (counted.built ▸ formed.pending) started
  rw [counted.built] at filled
  rw [handedOut]
  exact ⟨filled, fun extra positive turn => filled.not_fits positive turn⟩

/-- The second of two items fills a batch, which does not wait for the linger time. -/
theorem pair_handed_out_at_once :
    let options : BatchOptions := { maxSize := 2, linger := .ofMillis 1 }
    let first : Move Unit := .addNoWait 5 ()
    let batch : List (Entry Unit) :=
      [{ id := 0, item := (), size := 5 }, { id := 1, item := (), size := 5 }]
    options.linger.isZero = false ∧
    (sessionOf options ([first] ++ [first])).accepted =
      (sessionOf options [first]).accepted ++ [{ id := 1, item := (), size := 5 }] ∧
    (sessionOf options ([first] ++ [first])).taken =
      (sessionOf options [first]).taken ++ ([] ++ batch :: []) ∧
    options.Filled batch [] := by
  intro options first batch
  have accepted : (sessionOf options ([first] ++ [first])).accepted =
      (sessionOf options [first]).accepted ++ [{ id := 1, item := (), size := 5 }] := by
    decide +kernel
  have taken : (sessionOf options ([first] ++ [first])).taken =
      (sessionOf options [first]).taken ++ ([] ++ batch :: []) := by
    decide +kernel
  have empty : (sessionOf options ([first] ++ [first])).batcher.pending = [] := by
    decide +kernel
  have filled := (handed_out_at_once_is_filled (by decide) [first] accepted taken).1
  rw [empty] at filled
  exact ⟨by decide, accepted, taken, filled⟩

end Batcher
end PubSub
