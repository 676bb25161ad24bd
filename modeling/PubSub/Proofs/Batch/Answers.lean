import PubSub.Proofs.Batch.Conservation
import PubSub.Proofs.Batch.Waiting

/-!
# Every caller is answered with the result of its batch

Results are given to items by the handler task of their batch, one item after the other. `Answered`
follows a result on its way: it comes from a handler that has come to an answer, and the items of
the batch have it or are still with the task that gives it. What a caller is answered with is then a
result that was given to its item, unless the caller gave up itself. That the batcher is shut down
it is told only by the handler.
-/

namespace PubSub
namespace Batcher

variable {Item : Type}

attribute [local simp] List.filterMap_cons

/-- The handler has come to this result for a batch that has the item. -/
def Session.EndedWith (session : Session Item) (id : Nat) (result : Outcome Unit) : Prop :=
  ∃ ending ∈ session.ended,
    resultOf? ending.2 = some result ∧ ∃ entry ∈ ending.1, entry.id = id

/-- What the handler has come to stays on record. -/
theorem Session.EndedWith.mono
    {before after : Session Item}
    {happened : List (Record Item)}
    (records : after.records = before.records ++ happened)
    {id : Nat}
    {result : Outcome Unit}
    (endedWith : before.EndedWith id result) : after.EndedWith id result := by
  obtain ⟨ending, member, known⟩ := endedWith
  refine ⟨ending, ?_, known⟩
  simp only [Session.ended] at member ⊢
  rw [records, List.filterMap_append]
  exact List.mem_append_left _ member

/-- An item has a result, or is with a handler task that gives it this result. -/
def Session.Receives (session : Session Item) (entry : Entry Item) (result : Outcome Unit) :
    Prop :=
  (entry.id, result) ∈ session.batcher.answers ∨
    ∃ left, .handler (.answering left result) ∈ session.activities ∧ entry ∈ left

/-- Where the results are that handlers have come to. -/
structure Answered (session : Session Item) : Prop where
  ended : ∀ ending ∈ session.ended,
    ∃ result, resultOf? ending.2 = some result ∧
      ∀ entry ∈ ending.1, session.Receives entry result
  answering : ∀ left result, .handler (.answering left result) ∈ session.activities →
    ∃ ending ∈ session.ended, resultOf? ending.2 = some result ∧ ∀ entry ∈ left, entry ∈ ending.1
  given : ∀ id result, (id, result) ∈ session.batcher.answers → session.EndedWith id result

namespace Answered

variable {before after : Session Item}

theorem create (options : BatchOptions) : Answered (.create options : Session Item) where
  ended := by simp [Session.create]
  answering := by simp [Session.create]
  given := by simp [Session.create, Batcher.create]

/-- Only the answers, the endings and the tasks that still give a result matter. -/
theorem congr
    (answered : Answered before)
    (answers : after.batcher.answers = before.batcher.answers)
    (ended : after.ended = before.ended)
    (kept : ∀ left result, left ≠ [] → .handler (.answering left result) ∈ before.activities →
      .handler (.answering left result) ∈ after.activities)
    (none : ∀ left result, .handler (.answering left result) ∈ after.activities →
      .handler (.answering left result) ∈ before.activities) : Answered after where
  ended := by
    rw [ended]
    intro ending member
    obtain ⟨result, outcome, receives⟩ := answered.ended ending member
    refine ⟨result, outcome, fun entry entryMember => ?_⟩
    rcases receives entry entryMember with given | ⟨left, task, remains⟩
    · exact .inl (answers ▸ given)
    · exact .inr ⟨left, kept left result (List.ne_nil_of_mem remains) task, remains⟩
  answering left result task := by
    rw [ended]
    exact answered.answering left result (none left result task)
  given id result given := by
    rw [answers] at given
    unfold Session.EndedWith
    rw [ended]
    exact answered.given id result given

/-- A handler that has come to an answer owes its result to every item of its batch. -/
theorem came
    (answered : Answered before)
    {batch : List (Entry Item)}
    {answer : Answer (Outcome Unit)}
    {result : Outcome Unit}
    {others : List (Activity Item)}
    (split : before.activities.Perm (.handler (.working batch) :: others))
    (outcome : resultOf? answer = some result)
    (answers : after.batcher.answers = before.batcher.answers)
    (ended : after.ended = before.ended ++ [(batch, answer)])
    (activities : after.activities = .handler (.answering batch result) :: others) :
    Answered after where
  ended := by
    rw [ended]
    intro ending member
    rcases List.mem_append.mp member with earlier | new
    · obtain ⟨other, otherOutcome, receives⟩ := answered.ended ending earlier
      refine ⟨other, otherOutcome, fun entry entryMember => ?_⟩
      rcases receives entry entryMember with given | ⟨left, task, remains⟩
      · exact .inl (answers ▸ given)
      · refine .inr ⟨left, ?_, remains⟩
        rw [activities]
        exact List.mem_cons_of_mem _ (by simpa using split.mem_iff.mp task)
    · rw [List.mem_singleton.mp new]
      refine ⟨result, outcome, fun entry entryMember => .inr ⟨batch, ?_, entryMember⟩⟩
      simp [activities]
  answering left other task := by
    rw [ended]
    rw [activities] at task
    rcases List.mem_cons.mp task with same | earlier
    · cases same
      exact ⟨(batch, answer), by simp, outcome, fun entry member => member⟩
    · obtain ⟨ending, member, known⟩ :=
        answered.answering left other (split.mem_iff.mpr (List.mem_cons_of_mem _ earlier))
      exact ⟨ending, List.mem_append_left _ member, known⟩
  given id other given := by
    rw [answers] at given
    obtain ⟨ending, member, known⟩ := answered.given id other given
    exact ⟨ending, ended ▸ List.mem_append_left _ member, known⟩

/-- An item that gets its result is no longer with the task. -/
theorem gave
    (answered : Answered before)
    {entry : Entry Item}
    {rest : List (Entry Item)}
    {result : Outcome Unit}
    {others : List (Activity Item)}
    (split : before.activities.Perm (.handler (.answering (entry :: rest) result) :: others))
    (answers : after.batcher.answers = (entry.id, result) :: before.batcher.answers)
    (ended : after.ended = before.ended)
    (activities : after.activities = .handler (.answering rest result) :: others) :
    Answered after where
  ended := by
    rw [ended]
    intro ending member
    obtain ⟨other, outcome, receives⟩ := answered.ended ending member
    refine ⟨other, outcome, fun item itemMember => ?_⟩
    unfold Session.Receives
    rw [answers, activities]
    rcases receives item itemMember with given | ⟨left, task, remains⟩
    · exact .inl (List.mem_cons_of_mem _ given)
    · rcases List.mem_cons.mp (split.mem_iff.mp task) with same | elsewhere
      · cases same
        rcases List.mem_cons.mp remains with rfl | later
        · exact .inl (by simp)
        · exact .inr ⟨rest, by simp, later⟩
      · exact .inr ⟨left, List.mem_cons_of_mem _ elsewhere, remains⟩
  answering left other task := by
    rw [ended]
    rw [activities] at task
    rcases List.mem_cons.mp task with same | elsewhere
    · cases same
      obtain ⟨ending, member, outcome, inBatch⟩ :=
        answered.answering (entry :: rest) result (split.mem_iff.mpr (by simp))
      exact ⟨ending, member, outcome, fun item remains => inBatch item (by simp [remains])⟩
    · exact answered.answering left other (split.mem_iff.mpr (List.mem_cons_of_mem _ elsewhere))
  given id other given := by
    unfold Session.EndedWith
    rw [ended]
    rw [answers] at given
    rcases List.mem_cons.mp given with same | earlier
    · cases same
      obtain ⟨ending, member, outcome, inBatch⟩ :=
        answered.answering (entry :: rest) result (split.mem_iff.mpr (by simp))
      exact ⟨ending, member, outcome, entry, inBatch entry (by simp), rfl⟩
    · exact answered.given id other earlier

theorem opening
    {middle : Session Item}
    {lingered : Bool}
    (opening : Opening before middle lingered)
    (answered : Answered before) : Answered middle := by
  cases opening with
  | accepted split | rang split | flushBegan split =>
      exact answered.congr rfl (by simp) (by simp [split.mem_iff]) (by simp [split.mem_iff])
  | acceptedAlone =>
      exact answered.congr rfl (by simp) (fun _ _ _ task => task) (fun _ _ task => task)

theorem change
    (change : Change before after)
    (answered : Answered before) : Answered after := by
  cases change with
  | handedOut opening dispatched =>
      exact (answered.opening opening).congr dispatched.answers (by simp) (by simp +contextual)
        (by simp)
  | arrived fresh => cases fresh <;> exact answered.congr rfl rfl (by simp) (by simp)
  | left split leaves =>
      cases leaves <;>
        exact answered.congr rfl rfl (by simp [split.mem_iff]) (by simp [split.mem_iff])
  | reordered same =>
      exact answered.congr rfl rfl (by simp [same.mem_iff]) (by simp [same.mem_iff])
  | cancelled => exact { answered with }
  | elapsed => exact { answered with }
  | withdrew split =>
      exact answered.congr (by simp [noteIdle_eq, without]) (by simp) (by simp [split.mem_iff])
        (by simp [split.mem_iff])
  | ended split outcome => exact answered.came split outcome rfl (by simp) rfl
  | gave split => exact answered.gave split rfl rfl rfl
  | wentOn split _ handout =>
      exact answered.congr handout.answers (by simp) (by simp +contextual [split.mem_iff])
        (by simp +contextual [split.mem_iff])
  | stopped split =>
      exact answered.congr (by simp [noteIdle_eq]) rfl (by simp +contextual [split.mem_iff])
        (by simp +contextual [split.mem_iff])
  | returned split | called split | listened split | looked split | woke split | flushed split =>
      exact answered.congr rfl (by simp) (by simp [split.mem_iff]) (by simp [split.mem_iff])

end Answered

theorem answered_sessionOf (options : BatchOptions) (moves : List (Move Item)) :
    Answered (sessionOf options moves) :=
  sessionOf_induction (.create options) .change moves

/-! ## One run for each item -/

/-- If the numbers in some batches are distinct, then only one batch has a given number. -/
theorem filter_hasId_eq_singleton {Element : Type}
    (batchOf : Element → List (Entry Item))
    {elements : List Element}
    (distinct : ((elements.map batchOf).flatten.map Entry.id).Nodup)
    {element : Element}
    (member : element ∈ elements)
    {id : Nat}
    (has : id ∈ (batchOf element).map Entry.id) :
    elements.filter (fun other => id ∈ (batchOf other).map Entry.id) = [element] := by
  induction elements with
  | nil => contradiction
  | cons front rest hypothesis =>
      rw [List.map_cons, List.flatten_cons, List.map_append, List.nodup_append] at distinct
      obtain ⟨_, restDistinct, apart⟩ := distinct
      rcases List.mem_cons.mp member with rfl | later
      · have others : rest.filter (fun other => id ∈ (batchOf other).map Entry.id) = [] := by
          refine List.filter_eq_nil_iff.mpr fun other otherMember otherHas => ?_
          refine apart id has id ?_ rfl
          rw [List.map_flatten, List.mem_flatten]
          exact ⟨_, by simpa using ⟨other, otherMember, rfl⟩, of_decide_eq_true otherHas⟩
        rw [List.filter_cons_of_pos (by simpa using has), others]
      · have absent : id ∉ (batchOf front).map Entry.id := by
          intro frontHas
          refine apart id frontHas id ?_ rfl
          rw [List.map_flatten, List.mem_flatten]
          exact ⟨_, by simpa using ⟨element, later, rfl⟩, has⟩
        rw [List.filter_cons_of_neg (by simpa using absent)]
        exact hypothesis restDistinct later

section

variable {session : Session Item} (tallied : Tallied session) (conserved : Conserved session)

include tallied conserved

theorem nodup_called : (session.called.flatten.map Entry.id).Nodup := by
  have whole := (tallied.perm_taken.flatten.map Entry.id).nodup_iff.mpr conserved.nodup_taken
  rw [List.flatten_append, List.map_append, List.nodup_append] at whole
  exact whole.1

theorem nodup_ended : ((session.ended.map Prod.fst).flatten.map Entry.id).Nodup := by
  have whole :=
    (tallied.perm_called.flatten.map Entry.id).nodup_iff.mpr (nodup_called tallied conserved)
  rw [List.flatten_append, List.map_append, List.nodup_append] at whole
  exact whole.1

/-- The handler comes to one result for an item. -/
theorem Session.EndedWith.unique
    {id : Nat}
    {first second : Outcome Unit}
    (endedFirst : session.EndedWith id first)
    (endedSecond : session.EndedWith id second) : first = second := by
  obtain ⟨ending, member, outcome, has⟩ := endedFirst
  obtain ⟨other, otherMember, otherOutcome, otherHas⟩ := endedSecond
  have distinct := nodup_ended tallied conserved
  have only := filter_hasId_eq_singleton Prod.fst distinct member (List.mem_map.mpr has)
  have otherOnly :=
    filter_hasId_eq_singleton Prod.fst distinct otherMember (List.mem_map.mpr otherHas)
  have same : ending = other := by simpa using only.symm.trans otherOnly
  rw [same, otherOutcome] at outcome
  exact (Option.some.inj outcome).symm

/-- An item whose batch has come to an answer is accepted and no longer pending. -/
theorem Session.EndedWith.gone
    {id : Nat}
    {result : Outcome Unit}
    (ended : session.EndedWith id result) :
    id < session.batcher.nextId ∧ ∀ entry ∈ session.batcher.pending, entry.id ≠ id := by
  obtain ⟨ending, member, _, entry, inBatch, rfl⟩ := ended
  have taken : entry ∈ session.taken.flatten :=
    List.mem_flatten.mpr ⟨_, tallied.mem_taken_of_ended member, inBatch⟩
  exact ⟨conserved.id_lt (conserved.mem_queue.mp (.inl taken)).1,
    fun other pending => (conserved.id_ne taken pending).symm⟩

end

/-! ## What callers are told -/

/-- What is known about the callers that were answered. -/
structure Told (session : Session Item) : Prop where
  reason : ∀ context id result, .returned context id result ∈ session.records →
    session.EndedWith id result ∨ (result = .error .canceled ∧ context ∈ session.cancelled)
  gone : ∀ context id result, .returned context id result ∈ session.records →
    id < session.batcher.nextId ∧ ∀ entry ∈ session.batcher.pending, entry.id ≠ id
  /-- No batch that is taken later has the item. -/
  later : session.records.Pairwise fun early late =>
    ∀ context id result batch, early = .returned context id result → late = .taken batch →
      ∀ entry ∈ batch, entry.id ≠ id

namespace Told

variable {before after : Session Item}

theorem create (options : BatchOptions) : Told (.create options : Session Item) where
  reason := by simp [Session.create]
  gone := by simp [Session.create]
  later := .nil

/-- As long as nobody is told anything, only the batches that are taken matter. -/
theorem congr
    (told : Told before)
    {happened : List (Record Item)}
    (records : after.records = before.records ++ happened)
    (nobody : ∀ context id result, .returned context id result ∉ happened)
    (taken : ∀ batch, .taken batch ∈ happened → ∀ entry ∈ batch, entry ∈ before.batcher.pending)
    (cancelled : before.cancelled ⊆ after.cancelled)
    (nextId : before.batcher.nextId ≤ after.batcher.nextId)
    (pending : ∀ entry ∈ after.batcher.pending,
      entry ∈ before.batcher.pending ∨ before.batcher.nextId ≤ entry.id) : Told after := by
  have old {context id result} (member : .returned context id result ∈ after.records) :
      .returned context id result ∈ before.records := by
    rw [records] at member
    rcases List.mem_append.mp member with earlier | new
    · exact earlier
    · exact absurd new (nobody context id result)
  refine ⟨?_, ?_, ?_⟩
  · intro context id result member
    rcases told.reason context id result (old member) with ended | ⟨canceled, contextMember⟩
    · exact .inl (ended.mono records)
    · exact .inr ⟨canceled, cancelled contextMember⟩
  · intro context id result member
    obtain ⟨below, absent⟩ := told.gone context id result (old member)
    refine ⟨by omega, fun entry entryMember => ?_⟩
    rcases pending entry entryMember with earlier | new
    · exact absent entry earlier
    · omega
  · rw [records, List.pairwise_append]
    refine ⟨told.later, ?_, ?_⟩
    · refine List.pairwise_of_forall_mem_list fun early earlyMember late _ => ?_
      rintro context id result batch rfl
      exact absurd earlyMember (nobody context id result)
    · rintro early earlyMember late lateMember context id result batch rfl rfl entry inBatch
      exact (told.gone context id result earlyMember).2 entry (taken batch lateMember entry inBatch)

/-- A caller is told something about an item that is no longer pending. -/
theorem returned
    (told : Told before)
    {context id : Nat}
    {result : Outcome Unit}
    {happened : List (Record Item)}
    (records : after.records = before.records ++ happened)
    (only : ∀ record ∈ happened,
      record = .withdrawn id ∨ record = .returned context id result)
    (cancelled : after.cancelled = before.cancelled)
    (nextId : after.batcher.nextId = before.batcher.nextId)
    (pending : after.batcher.pending ⊆ before.batcher.pending)
    (reason : before.EndedWith id result ∨
      (result = .error .canceled ∧ context ∈ before.cancelled))
    (gone : id < before.batcher.nextId ∧ ∀ entry ∈ after.batcher.pending, entry.id ≠ id) :
    Told after := by
  have cases {otherContext other otherResult}
      (member : .returned otherContext other otherResult ∈ after.records) :
      .returned otherContext other otherResult ∈ before.records ∨
        (otherContext = context ∧ other = id ∧ otherResult = result) := by
    rw [records] at member
    rcases List.mem_append.mp member with earlier | new
    · exact .inl earlier
    · exact .inr (by simpa using only _ new)
  have noBatch : ∀ batch, .taken batch ∉ happened := by
    intro batch member
    simpa using only _ member
  refine ⟨?_, ?_, ?_⟩
  · intro otherContext other otherResult member
    rw [cancelled]
    have known : before.EndedWith other otherResult ∨
        (otherResult = .error .canceled ∧ otherContext ∈ before.cancelled) := by
      rcases cases member with earlier | ⟨rfl, rfl, rfl⟩
      · exact told.reason _ _ _ earlier
      · exact reason
    exact known.imp_left (·.mono records)
  · intro otherContext other otherResult member
    rw [nextId]
    rcases cases member with earlier | ⟨rfl, rfl, rfl⟩
    · obtain ⟨below, absent⟩ := told.gone _ _ _ earlier
      exact ⟨below, fun entry entryMember => absent entry (pending entryMember)⟩
    · exact gone
  · rw [records, List.pairwise_append]
    refine ⟨told.later, ?_, ?_⟩
    · refine List.pairwise_of_forall_mem_list fun early _ late lateMember => ?_
      rintro _ _ _ batch _ rfl
      exact absurd lateMember (noBatch batch)
    · rintro early _ late lateMember _ _ _ batch _ rfl
      exact absurd lateMember (noBatch batch)

theorem opening
    {middle : Session Item}
    {lingered : Bool}
    (opening : Opening before middle lingered)
    (told : Told before) : Told middle := by
  cases opening with
  | accepted _ numbered | acceptedAlone numbered =>
      refine told.congr rfl (by simp) (by simp) (fun _ member => member) (Nat.le_succ _) ?_
      intro entry member
      simp only [Batcher.enqueued, List.mem_append, List.mem_singleton] at member
      exact member.imp_right fun new => Nat.le_of_eq (by rw [new, numbered])
  | rang | flushBegan => exact { told with }

/-- Whoever waits for an item is told the result of its batch, or gave up. -/
theorem change
    (change : Change before after)
    (tallied : Tallied before)
    (conserved : Conserved before)
    (awaited : Awaited before)
    (answered : Answered before)
    (told : Told before) : Told after := by
  cases change with
  | handedOut opening dispatched =>
      refine (told.opening opening).congr rfl (by simp) ?_ (fun _ member => member)
        (by simp [dispatched.nextId]) fun _ member => .inl (dispatched.pending_suffix.mem member)
      intro batch member entry inBatch
      exact dispatched.mem_pending (by simpa using member) inBatch
  | returned split reason =>
      obtain ⟨below, kept⟩ := awaited.of_split split
      cases reason with
      | given given =>
          have ended := answered.given _ _ given
          exact told.returned rfl (fun _ member => .inr (List.mem_singleton.mp member)) rfl rfl
            (fun _ member => member) (.inl ended) (ended.gone tallied conserved)
      -- Only the caller itself could have taken its item back.
      | lost withdrawn => exact absurd withdrawn kept
      | gaveUp cancelled absent =>
          exact told.returned rfl (fun _ member => .inr (List.mem_singleton.mp member)) rfl rfl
            (fun _ member => member) (.inr ⟨rfl, cancelled⟩) ⟨below, absent⟩
  | withdrew split cancelled present =>
      refine told.returned rfl (by simp) rfl (by simp [noteIdle_eq, without]) ?_
        (.inr ⟨rfl, cancelled⟩) ⟨(awaited.of_split split).1, ?_⟩
      · simpa [noteIdle_eq, without] using List.eraseP_subset
      · simp [noteIdle_eq, without, eraseP_id_eq_filter conserved.nodup_pending]
  | wentOn _ _ handout =>
      refine told.congr rfl (by simp) ?_ (fun _ member => member)
        (by simp [handout.nextId]) fun _ member => .inl (handout.pending_suffix.mem member)
      intro batch member entry inBatch
      exact handout.mem_pending (by simpa using member) inBatch
  | stopped =>
      exact told.congr (List.append_nil _).symm (by simp) (by simp) (fun _ member => member)
        (by simp [noteIdle_eq]) (by simp +contextual [noteIdle_eq])
  | cancelled context =>
      exact told.congr (List.append_nil _).symm (by simp) (by simp)
        (fun _ member => List.mem_cons_of_mem _ member) (Nat.le_refl _) fun _ member => .inl member
  | arrived | left | reordered | elapsed | gave => exact { told with }
  | called | ended | flushed =>
      exact told.congr rfl (by simp) (by simp) (fun _ member => member) (Nat.le_refl _)
        fun _ member => .inl member
  | listened | looked | woke => exact { told with }

end Told

theorem told_sessionOf (options : BatchOptions) (moves : List (Move Item)) :
    Told (sessionOf options moves) :=
  sessionOf_induction (.create options)
    (fun change told => told.change change (tallied_sessionOf _ _) (conserved_sessionOf _ _)
      (awaited_sessionOf _ _) (answered_sessionOf _ _))
    moves

/-! ## Results and their handlers -/

/-- A result is what the handler returned, or says that the handler panicked. -/
theorem resultOf?_eq_some_iff {answer : Answer (Outcome Unit)} {result : Outcome Unit} :
    resultOf? answer = some result ↔
      answer = .returned result ∨
        ∃ info, answer = .panicked info ∧ result = .error .handlerPanicked := by
  cases answer <;> simp [resultOf?, eq_comm]

section

variable {session : Session Item} (tallied : Tallied session) (conserved : Conserved session)

include tallied conserved

/-- A result that an item has is what is found for it. -/
theorem answer?_of_mem
    (answered : Answered session)
    {id : Nat}
    {result : Outcome Unit}
    (given : (id, result) ∈ session.batcher.answers) :
    session.batcher.answer? id = some result := by
  cases found : session.batcher.answer? id with
  | none =>
      have absent := List.lookup_eq_none_iff.mp found (id, result) given
      simp at absent
  | some other =>
      have ended := answered.given id other (mem_answers_of_answer? found)
      rw [ended.unique tallied conserved (answered.given id result given)]

/-- The result of an item belongs to the only run of the handler that had the item. -/
theorem Session.EndedWith.only_run
    {id : Nat}
    {result : Outcome Unit}
    (endedWith : session.EndedWith id result) :
    ∃ batch answer,
      session.called.filter (fun other => id ∈ other.map Entry.id) = [batch] ∧
        session.ended.filter (fun ending => id ∈ ending.1.map Entry.id) = [(batch, answer)] ∧
        (answer = .returned result ∨
          ∃ info cause, answer = .panicked info ∧ result = .error (.driver .internal cause)) := by
  obtain ⟨⟨batch, answer⟩, ended, outcome, has⟩ := endedWith
  have called : batch ∈ session.called :=
    tallied.perm_called.mem_iff.mp (List.mem_append_left _ (List.mem_map_of_mem ended))
  have calledOnce : ((session.called.map fun other => other).flatten.map Entry.id).Nodup := by
    rw [List.map_id']
    exact nodup_called tallied conserved
  refine ⟨batch, answer, ?_, ?_, ?_⟩
  · exact filter_hasId_eq_singleton (fun other => other) calledOnce called (List.mem_map.mpr has)
  · exact filter_hasId_eq_singleton Prod.fst (nodup_ended tallied conserved) ended
      (List.mem_map.mpr has)
  · rcases resultOf?_eq_some_iff.mp outcome with returned | ⟨info, panicked, failed⟩
    · exact .inl returned
    · exact .inr ⟨info, _, panicked, failed⟩

end

/-- Only a handler that says so itself makes a caller hear that the batcher is shut down. -/
theorem Told.batcherShutdown
    {session : Session Item}
    (told : Told session)
    {context id : Nat}
    (returned : .returned context id (.error .batcherShutdown) ∈ session.records) :
    ∃ batch, (batch, .returned (.error .batcherShutdown)) ∈ session.ended := by
  rcases told.reason context id _ returned with ⟨⟨batch, answer⟩, ended, outcome, _⟩ | ⟨same, _⟩
  · rcases resultOf?_eq_some_iff.mp outcome with itself | ⟨info, _, same⟩
    · exact ⟨batch, itself ▸ ended⟩
    · contradiction
  · contradiction

theorem mem_records_of_mem_taken
    {session : Session Item}
    {batch : List (Entry Item)}
    (member : batch ∈ session.taken) : .taken batch ∈ session.records := by
  obtain ⟨record, recordMember, isTaken⟩ := List.mem_filterMap.mp member
  cases record with
  | taken other =>
      cases isTaken
      exact recordMember
  | _ => contradiction

/-- An item that was in no batch when its caller was answered is in no batch. -/
theorem Told.notMem_taken
    {session : Session Item}
    (told : Told session)
    {earlier later : List (Record Item)}
    {context id : Nat}
    {result : Outcome Unit}
    (records : session.records = earlier ++ .returned context id result :: later)
    (before : ∀ batch, .taken batch ∈ earlier → id ∉ batch.map Entry.id)
    {batch : List (Entry Item)}
    (taken : batch ∈ session.taken) : id ∉ batch.map Entry.id := by
  intro has
  obtain ⟨entry, inBatch, same⟩ := List.mem_map.mp has
  have order := told.later
  rw [records, List.pairwise_append, List.pairwise_cons] at order
  have recorded := mem_records_of_mem_taken taken
  rw [records, List.mem_append, List.mem_cons] at recorded
  rcases recorded with early | now | late
  · exact before batch early has
  · contradiction
  · exact order.2.1.1 _ late _ _ _ batch rfl rfl entry inBatch same

/-- A caller whose item was accepted and who is answered is told what the one run of the handler on
the batch with its item has come to, or that it was cancelled, and then its own context is. All
items of a batch get the same result, and an item in no batch by then is in no batch ever. -/
theorem returned_eq_result_of_batch (options : BatchOptions) (moves : List (Move Item)) :
    let session := sessionOf options moves
    (∀ context id result, .returned context id result ∈ session.records →
      (∃ batch answer,
          session.called.filter (fun other => id ∈ other.map Entry.id) = [batch] ∧
            session.ended.filter (fun ending => id ∈ ending.1.map Entry.id) = [(batch, answer)] ∧
            (answer = .returned result ∨
              ∃ info cause,
                answer = .panicked info ∧ result = .error (.driver .internal cause))) ∨
        (result = .error .canceled ∧ context ∈ session.cancelled)) ∧
      (∀ context id, .returned context id (.error .batcherShutdown) ∈ session.records →
        ∃ batch, (batch, .returned (.error .batcherShutdown)) ∈ session.ended) ∧
      (∀ ending ∈ session.ended, ∃ result, resultOf? ending.2 = some result ∧
        ∀ entry ∈ ending.1,
          session.batcher.answer? entry.id = some result ∨
            ∃ left, .handler (.answering left result) ∈ session.activities ∧ entry ∈ left) ∧
      ∀ earlier context id result later,
        session.records = earlier ++ .returned context id result :: later →
        (∀ batch, .taken batch ∈ earlier → id ∉ batch.map Entry.id) →
        ∀ batch ∈ session.taken, id ∉ batch.map Entry.id := by
  intro session
  have tallied : Tallied session := tallied_sessionOf options moves
  have conserved : Conserved session := conserved_sessionOf options moves
  have answered : Answered session := answered_sessionOf options moves
  have told : Told session := told_sessionOf options moves
  refine ⟨?_, ?_, ?_, ?_⟩
  · intro context id result returned
    exact (told.reason context id result returned).imp_left (·.only_run tallied conserved)
  · intro context id returned
    exact told.batcherShutdown returned
  · intro ending member
    obtain ⟨result, outcome, receives⟩ := answered.ended ending member
    refine ⟨result, outcome, fun entry inBatch => ?_⟩
    exact (receives entry inBatch).imp_left (answer?_of_mem tallied conserved answered)
  · intro earlier context id result later records before batch taken
    exact told.notMem_taken records before taken

/-- Two items share a batch. The handler panics, which one caller is told; the context of the
other one is cancelled in the meantime. -/
example :
    (sessionOf { minSize := 2 }
      [.add 7 1 'a', .add 8 1 'b', .turn 1 false .running, .turn 1 false .running,
        .turn 0 false .running, .turn 0 false (.panicked "no"), .cancel 8,
        .turn 1 true .running, .turn 0 false .running, .turn 1 true .running]).records.drop 5 =
      [.returned 8 1 (.error .canceled), .returned 7 0 (.error .handlerPanicked)] := by
  cbv

end Batcher
end PubSub
