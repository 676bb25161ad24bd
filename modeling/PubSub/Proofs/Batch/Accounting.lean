import PubSub.Proofs.Batch.Change

/-!
# Every batch has one handler task

A batch that was cut off the queue is with a handler task until the handler has come to
an answer for it: first the handler is about to be called with it, then it is at work on
it. Batches are compared by counting those that have a property, whatever the property.
-/

namespace PubSub
namespace Batcher

variable {Item : Type}

/-! ## What a session shows after batches were handed out -/

@[simp] theorem accepted?_comp_taken :
    Record.accepted? ∘ (.taken : List (Entry Item) → Record Item) = fun _ => none := rfl

@[simp] theorem withdrawn?_comp_taken :
    Record.withdrawn? ∘ (.taken : List (Entry Item) → Record Item) = fun _ => none := rfl

@[simp] theorem taken?_comp_taken :
    Record.taken? ∘ (.taken : List (Entry Item) → Record Item) = some := rfl

@[simp] theorem called?_comp_taken :
    Record.called? ∘ (.taken : List (Entry Item) → Record Item) = fun _ => none := rfl

@[simp] theorem ended?_comp_taken :
    Record.ended? ∘ (.taken : List (Entry Item) → Record Item) = fun _ => none := rfl

theorem countP_cons_toNat {Element : Type}
    (counted : Element → Bool)
    (element : Element)
    (others : List Element) :
    (element :: others).countP counted = others.countP counted + (counted element).toNat := by
  cases holds : counted element <;> simp [holds]

/-- The tasks that are started are one about to call the handler for each batch, and a timer. -/
@[simp] theorem countP_activities
    (dispatch : Dispatch Item)
    (now : Nat)
    (counted : Activity Item → Bool) :
    (Dispatch.activities dispatch now).countP counted =
      dispatch.started.countP (fun batch => counted (.handler (.starting batch))) +
        (dispatch.armed &&
          counted (.timer (now + dispatch.batcher.options.linger.nanos))).toNat := by
  unfold Dispatch.activities
  cases dispatch.armed <;> simp [Function.comp_def, countP_cons_toNat]

/-! ## Counting batches -/

attribute [local simp] List.filterMap_cons countP_cons_toNat

/-- Whether the handler is about to be called with a batch that has a property. -/
@[simp] def Activity.starts (property : List (Entry Item) → Bool) : Activity Item → Bool
  | .handler (.starting batch) => property batch
  | _ => false

/-- Whether the handler is at work on a batch that has a property. -/
@[simp] def Activity.works (property : List (Entry Item) → Bool) : Activity Item → Bool
  | .handler (.working batch) => property batch
  | _ => false

theorem countP_starting (session : Session Item) (property : List (Entry Item) → Bool) :
    session.starting.countP property = session.activities.countP (Activity.starts property) := by
  rw [Session.starting, List.countP_filterMap]
  congr 1
  funext activity
  unfold Activity.starting? Activity.starts
  split <;> simp

theorem countP_working (session : Session Item) (property : List (Entry Item) → Bool) :
    session.working.countP property = session.activities.countP (Activity.works property) := by
  rw [Session.working, List.countP_filterMap]
  congr 1
  funext activity
  unfold Activity.working? Activity.works
  split <;> simp

/-- Every batch is where it belongs, and every handler task has its slot. -/
structure Tallied (session : Session Item) : Prop where
  called : ∀ property,
    session.called.countP property + session.activities.countP (Activity.starts property) =
      session.taken.countP property
  ended : ∀ property,
    session.ended.countP (property ·.1) + session.activities.countP (Activity.works property) =
      session.called.countP property
  handlers : session.batcher.handlers = session.activities.countP Activity.isHandler

namespace Tallied

theorem create (options : BatchOptions) : Tallied (.create options : Session Item) where
  called _ := rfl
  ended _ := rfl
  handlers := rfl

/-- The order of the tasks makes no difference. -/
theorem perm
    {session : Session Item}
    {activities : List (Activity Item)}
    (tallied : Tallied session)
    (same : session.activities.Perm activities) : Tallied { session with activities } where
  called property := by rw [← same.countP_eq]; exact tallied.called property
  ended property := by rw [← same.countP_eq]; exact tallied.ended property
  handlers := by rw [← same.countP_eq]; exact tallied.handlers

/-- What comes before batches are handed out has to do with other tasks only. -/
theorem opening
    {before middle : Session Item}
    {lingered : Bool}
    (opening : Opening before middle lingered)
    (tallied : Tallied before) : Tallied middle := by
  cases opening with
  | accepted split =>
      obtain ⟨called, ended, handlers⟩ := tallied.perm split
      exact ⟨by simpa using called, by simpa using ended, by simpa [enqueued] using handlers⟩
  | acceptedAlone =>
      obtain ⟨called, ended, handlers⟩ := tallied
      exact ⟨by simpa using called, by simpa using ended, by simpa [enqueued] using handlers⟩
  | rang split | flushBegan split =>
      obtain ⟨called, ended, handlers⟩ := tallied.perm split
      exact ⟨by simpa using called, by simpa using ended, by simpa using handlers⟩

/-- A batch that is handed out gets a handler task. -/
theorem handOut
    {session : Session Item}
    {lingered : Bool}
    {dispatch : Dispatch Item}
    (dispatched : Dispatched session.batcher lingered dispatch)
    (tallied : Tallied session) : Tallied (session.handOut dispatch) := by
  obtain ⟨called, ended, handlers⟩ := tallied
  refine ⟨fun property => ?_, fun property => ?_, ?_⟩
  · have fresh : (Dispatch.activities dispatch session.now).countP (Activity.starts property) =
        dispatch.started.countP property := by simp
    have same := called property
    simp [fresh, -countP_activities] at same ⊢
    omega
  · simpa using ended property
  · have count := dispatched.handlers
    simp at count ⊢
    omega

theorem change
    {before after : Session Item}
    (change : Change before after)
    (tallied : Tallied before) : Tallied after := by
  -- A batch moves in `called`, `ended` and `wentOn` only, and a slot is given back in `stopped`.
  cases change with
  | handedOut opening dispatched => exact (tallied.opening opening).handOut dispatched
  | arrived fresh =>
      obtain ⟨called, ended, handlers⟩ := tallied
      cases fresh <;>
        exact ⟨by simpa using called, by simpa using ended, by simpa using handlers⟩
  | left split leaves =>
      obtain ⟨called, ended, handlers⟩ := tallied.perm split
      cases leaves <;>
        exact ⟨by simpa using called, by simpa using ended, by simpa using handlers⟩
  | reordered same => exact tallied.perm same
  | cancelled context => exact { tallied with }
  | elapsed nanos => exact { tallied with }
  | withdrew split =>
      obtain ⟨called, ended, handlers⟩ := tallied.perm split
      exact ⟨by simpa using called, by simpa using ended, by simpa [noteIdle_eq, without] using handlers⟩
  | called split =>
      obtain ⟨called, ended, handlers⟩ := tallied.perm split
      refine ⟨fun property => ?_, fun property => ?_, by simpa using handlers⟩
      · have same := called property
        simp at same ⊢
        omega
      · have same := ended property
        simp at same ⊢
        omega
  | ended split outcome =>
      obtain ⟨called, ended, handlers⟩ := tallied.perm split
      refine ⟨by simpa using called, fun property => ?_, by simpa using handlers⟩
      · have same := ended property
        simp at same ⊢
        omega
  | gave split =>
      obtain ⟨called, ended, handlers⟩ := tallied.perm split
      exact ⟨by simpa using called, by simpa using ended, by simpa [answer] using handlers⟩
  | wentOn split ready handout same =>
      obtain ⟨called, ended, handlers⟩ := tallied.perm split
      refine ⟨fun property => ?_, by simpa using ended, by simpa [same] using handlers⟩
      · have same := called property
        simp at same ⊢
        omega
  | stopped split =>
      obtain ⟨called, ended, handlers⟩ := tallied.perm split
      refine ⟨by simpa using called, by simpa using ended, ?_⟩
      simp at handlers
      simp [noteIdle_eq, handlers]
  | returned split | listened split | looked split | woke split | flushed split =>
      obtain ⟨called, ended, handlers⟩ := tallied.perm split
      exact ⟨by simpa using called, by simpa using ended, by simpa using handlers⟩

end Tallied

/-- Every session is tallied. -/
theorem tallied_sessionOf (options : BatchOptions) (moves : List (Move Item)) :
    Tallied (sessionOf options moves) :=
  sessionOf_induction (.create options) .change moves

/-! ## Batches and their tasks -/

section

variable {session : Session Item} (tallied : Tallied session)

include tallied

/-- The batches taken off the queue are those the handler was called with and those it is about
to be called with. -/
theorem Tallied.perm_taken : (session.called ++ session.starting).Perm session.taken := by
  classical
  rw [List.perm_iff_count]
  intro batch
  rw [List.count_append]
  unfold List.count
  rw [countP_starting]
  exact tallied.called (· == batch)

/-- The batches the handler was called with are those with an answer and those it is at work
on. -/
theorem Tallied.perm_called :
    (session.ended.map Prod.fst ++ session.working).Perm session.called := by
  classical
  rw [List.perm_iff_count]
  intro batch
  rw [List.count_append]
  unfold List.count
  rw [countP_working, List.countP_map]
  exact tallied.ended (· == batch)

theorem Tallied.mem_taken_of_called {batch : List (Entry Item)} (member : batch ∈ session.called) :
    batch ∈ session.taken :=
  tallied.perm_taken.mem_iff.mp (List.mem_append_left _ member)

theorem Tallied.mem_taken_of_ended
    {ending : List (Entry Item) × Answer (Outcome Unit)}
    (member : ending ∈ session.ended) : ending.1 ∈ session.taken :=
  tallied.mem_taken_of_called
    (tallied.perm_called.mem_iff.mp (List.mem_append_left _ (List.mem_map_of_mem member)))

end

end Batcher
end PubSub
