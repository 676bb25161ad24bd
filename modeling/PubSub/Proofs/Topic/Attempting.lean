import PubSub.Proofs.Topic.Entering

/-!
# How often a batch is sent

The handler of a batch asks the driver to send it, and asks again as long as the driver fails with
an error that it calls transient. The attempts that concern a message are those for its batch, one
after the other; each but the last has failed, and a batch that was delivered has succeeded with
the last one.

An item is in one batch only, and one handler has the batch. So while a handler is at work, nothing
happens to the items of its batch but what it does itself.
-/

namespace PubSub
namespace Topic

attribute [local simp] List.filterMap_cons

/-! ## Attempts -/

/-- Whether a record is an attempt to send a batch that has an item with this number, or what has
come of one. -/
@[simp] def Record.attempts (id : Nat) : Record → Bool
  | .sent batch _ => id ∈ batch.map Entry.id
  | .answered batch _ => id ∈ batch.map Entry.id
  | _ => false

/-- The attempts to send the item with this number, oldest first. -/
def Session.attempts (session : Session) (id : Nat) : List Record :=
  session.records.filter (Record.attempts id)

/-- An attempt to send a batch, with what has come of it. -/
def attempt (batch : List (Entry Envelope)) (answer : Answer (Except Fault Unit)) : List Record :=
  [.sent batch (batch.map Entry.item), .answered batch answer]

/-- Attempts to send a batch that have failed, one after the other. -/
def failedAttempts (batch : List (Entry Envelope)) (faults : List Fault) : List Record :=
  faults.flatMap fun fault => attempt batch (.returned (.error fault))

/-- The attempt that is running. -/
def openAttempt (batch : List (Entry Envelope)) : Retry.Phase → List Record
  | .calling _ => [.sent batch (batch.map Entry.item)]
  | _ => []

/-- The attempts to send the items of a batch: some have failed, each with an error that may be
transient, and then comes the last. -/
def Session.Attempted
    (session : Session)
    (batch : List (Entry Envelope))
    (last : List Record) : Prop :=
  ∃ faults, (∀ fault ∈ faults, session.topic.classification.isRetryable fault = true) ∧
    ∀ id ∈ batch.map Entry.id, session.attempts id = failedAttempts batch faults ++ last

/-- What has been tried for the items of every batch. -/
structure Attempting (session : Session) : Prop where
  unstarted : ∀ id, (∀ batch ∈ session.batching.called, id ∉ batch.map Entry.id) →
    session.attempts id = []
  calling : ∀ batch phase, .handler (.calling batch phase) ∈ session.activities →
    session.Attempted batch (openAttempt batch phase)
  delivered : ∀ batch, (batch, .returned (.ok ())) ∈ session.batching.ended →
    session.Attempted batch (attempt batch (.returned (.ok ())))

theorem called?_of_isMinor
    (record : Batcher.Record Envelope)
    (minor : isMinor record = true) : record.called? = none := by
  cases record <;> simp_all

theorem ended?_of_isMinor
    (record : Batcher.Record Envelope)
    (minor : isMinor record = true) : record.ended? = none := by
  cases record <;> simp_all

namespace Session

variable {before after : Session} {happened : List Record}

theorem attempts_append (records : after.records = before.records ++ happened) (id : Nat) :
    after.attempts id = before.attempts id ++ happened.filter (Record.attempts id) := by
  rw [attempts, attempts, records, List.filter_append]

/-- For items of other batches nothing is tried. -/
theorem Attempted.mono
    {batch : List (Entry Envelope)}
    {last : List Record}
    (attempted : before.Attempted batch last)
    (classification : after.topic.classification = before.topic.classification)
    (attempts : ∀ id ∈ batch.map Entry.id, after.attempts id = before.attempts id) :
    after.Attempted batch last := by
  obtain ⟨faults, transient, tried⟩ := attempted
  exact ⟨faults, classification ▸ transient, fun id has => (attempts id has).trans (tried id has)⟩

/-- An attempt that goes on. -/
theorem Attempted.append
    {batch : List (Entry Envelope)}
    {last more : List Record}
    (attempted : before.Attempted batch last)
    (classification : after.topic.classification = before.topic.classification)
    (records : after.records = before.records ++ happened)
    (own : ∀ id ∈ batch.map Entry.id, happened.filter (Record.attempts id) = more) :
    after.Attempted batch (last ++ more) := by
  obtain ⟨faults, transient, tried⟩ := attempted
  refine ⟨faults, classification ▸ transient, fun id has => ?_⟩
  rw [attempts_append records, tried id has, own id has, List.append_assoc]

/-- An attempt that has failed may be repeated. -/
theorem Attempted.repeat
    {batch : List (Entry Envelope)}
    {fault : Fault}
    (attempted : before.Attempted batch (attempt batch (.returned (.error fault))))
    (transient : before.topic.classification.isRetryable fault = true) :
    before.Attempted batch [] := by
  obtain ⟨faults, earlier, tried⟩ := attempted
  refine ⟨faults ++ [fault], ?_, fun id has => ?_⟩
  · simpa [or_imp, forall_and] using ⟨earlier, transient⟩
  · rw [tried id has]
    simp [failedAttempts]

end Session

namespace Attempting

variable {before after : Session}

theorem create (setup : Setup) : Attempting setup.session where
  unstarted _ _ := rfl
  calling := by simp [Setup.session]
  delivered := by simp [Setup.session]

/-- Nothing was tried. -/
theorem congr
    (attempting : Attempting before)
    {happened : List Record}
    (records : after.records = before.records ++ happened)
    (nothing : ∀ id, happened.filter (Record.attempts id) = [])
    (classification : after.topic.classification = before.topic.classification)
    (called : after.batching.called = before.batching.called)
    (ended : after.batching.ended = before.batching.ended)
    (calling : ∀ batch phase, .handler (.calling batch phase) ∈ after.activities →
      .handler (.calling batch phase) ∈ before.activities) : Attempting after := by
  have same (id : Nat) : after.attempts id = before.attempts id := by
    rw [Session.attempts_append records, nothing, List.append_nil]
  refine ⟨fun id uncalled => ?_, fun batch phase member => ?_, fun batch member => ?_⟩
  · rw [same]
    exact attempting.unstarted id (called ▸ uncalled)
  · exact (attempting.calling batch phase (calling batch phase member)).mono classification
      fun id _ => same id
  · exact (attempting.delivered batch (ended ▸ member)).mono classification fun id _ => same id

/-- The handler of a batch begins. -/
theorem announced
    (attempting : Attempting before)
    (tallied : Batcher.Tallied before.batching)
    (conserved : Batcher.Conserved before.batching)
    {batch : List (Entry Envelope)}
    {others : List Activity}
    {happened : List Record}
    (split : before.activities.Perm (.handler (.announcing batch) :: others))
    (records : after.records = before.records ++ happened)
    (nothing : ∀ id, happened.filter (Record.attempts id) = [])
    (classification : after.topic.classification = before.topic.classification)
    (called : after.batching.called = before.batching.called ++ [batch])
    (ended : after.batching.ended = before.batching.ended)
    (activities : after.activities = .handler (.calling batch (.starting 0)) :: others) :
    Attempting after := by
  have same (id : Nat) : after.attempts id = before.attempts id := by
    rw [Session.attempts_append records, nothing, List.append_nil]
  refine ⟨fun id uncalled => ?_, fun other phase member => ?_, fun other member => ?_⟩
  · rw [same]
    refine attempting.unstarted id fun other member => uncalled other ?_
    rw [called]
    exact List.mem_append_left _ member
  · rw [activities] at member
    rcases List.mem_cons.mp member with new | elsewhere
    · cases new
      refine ⟨[], by simp, fun id has => ?_⟩
      rw [same]
      exact attempting.unstarted id
        (Batcher.uncalled_of_starting tallied conserved (perm_of_onBatcher?_eq_some split rfl) has)
    · exact (attempting.calling other phase (split.mem_iff.mpr (.tail _ elsewhere))).mono
        classification fun id _ => same id
  · exact (attempting.delivered other (ended ▸ member)).mono classification fun id _ => same id

/-- The handler of a batch goes on with its attempts, or has come to a result. -/
theorem worked
    (attempting : Attempting before)
    (tallied : Batcher.Tallied before.batching)
    (conserved : Batcher.Conserved before.batching)
    {batch : List (Entry Envelope)}
    {phase : Retry.Phase}
    {handler : Handler}
    {others : List Activity}
    {happened : List Record}
    (split : before.activities.Perm (.handler (.calling batch phase) :: others))
    (records : after.records = before.records ++ happened)
    (own : ∀ id, id ∉ batch.map Entry.id → happened.filter (Record.attempts id) = [])
    (classification : after.topic.classification = before.topic.classification)
    (called : after.batching.called = before.batching.called)
    (activities : after.activities = .handler handler :: others)
    (calling : ∀ other later, handler = .calling other later →
      other = batch ∧ after.Attempted batch (openAttempt batch later))
    (ended : ∀ other, (other, .returned (.ok ())) ∈ after.batching.ended →
      (other, .returned (.ok ())) ∈ before.batching.ended ∨
        other = batch ∧ after.Attempted batch (attempt batch (.returned (.ok ())))) :
    Attempting after := by
  have sorted := perm_of_onBatcher?_eq_some split rfl
  have apart {id : Nat} (has : id ∈ batch.map Entry.id) :=
    Batcher.apart_of_working tallied conserved sorted has
  have same {id : Nat} (elsewhere : id ∉ batch.map Entry.id) :
      after.attempts id = before.attempts id := by
    rw [Session.attempts_append records, own id elsewhere, List.append_nil]
  refine ⟨fun id uncalled => ?_, fun other later member => ?_, fun other member => ?_⟩
  · rw [called] at uncalled
    have working : batch ∈ before.batching.called :=
      Batcher.called_of_working tallied (sorted.mem_iff.mpr (.head _))
    rw [same (uncalled batch working)]
    exact attempting.unstarted id uncalled
  · rw [activities] at member
    rcases List.mem_cons.mp member with own | elsewhere
    · cases own
      obtain ⟨rfl, attempted⟩ := calling other later rfl
      exact attempted
    · have shown : .handler (.working other) ∈ others.filterMap Activity.onBatcher? :=
        List.mem_filterMap.mpr ⟨_, elsewhere, rfl⟩
      refine (attempting.calling other later (split.mem_iff.mpr (.tail _ elsewhere))).mono
        classification fun id has => same fun hasToo => ?_
      exact (apart hasToo).1 other shown has
  · rcases ended other member with earlier | ⟨rfl, attempted⟩
    · refine (attempting.delivered other earlier).mono classification
        fun id has => same fun hasToo => ?_
      exact (apart hasToo).2 _ earlier has
    · exact attempted

theorem change
    (change : Change before after)
    (tallied : Batcher.Tallied before.batching)
    (conserved : Batcher.Conserved before.batching)
    (attempting : Attempting before) : Attempting after := by
  have called {happened : List (Batcher.Record Envelope)} :=
    @filterMap_eq_nil_of_isMinor _ _ called?_of_isMinor happened
  have ended {happened : List (Batcher.Record Envelope)} :=
    @filterMap_eq_nil_of_isMinor _ _ ended?_of_isMinor happened
  cases change with
  | announced split =>
      exact attempting.announced tallied conserved split rfl (by simp) rfl (by simp) (by simp) rfl
  | @sent batch failures others split live =>
      have attempted := attempting.calling batch _ (split.mem_iff.mpr (.head _))
      refine attempting.worked tallied conserved split rfl (fun id apart => by simpa using apart)
        rfl (by simp) rfl (fun other later same => ?_)
        (fun other member => .inl (by simpa using member))
      cases same
      exact ⟨rfl, attempted.append rfl rfl fun id has => by simpa using has⟩
  | @retried batch failures later wakeAt fault event others split live transient scheduled =>
      have attempted := attempting.calling batch _ (split.mem_iff.mpr (.head _))
      refine attempting.worked tallied conserved split rfl (fun id apart => by simpa using apart)
        rfl (by simp) rfl (fun other later same => ?_)
        (fun other member => .inl (by simpa using member))
      cases same
      refine ⟨rfl, Session.Attempted.repeat ?_ transient⟩
      exact attempted.append rfl rfl fun id has => by simpa [List.filter_cons] using has
  | @resumed batch failures wakeAt others split =>
      have attempted := attempting.calling batch _ (split.mem_iff.mpr (.head _))
      refine attempting.worked tallied conserved split (List.append_nil _).symm (fun _ _ => rfl)
        rfl rfl rfl (fun other later same => ?_) (fun other member => .inl member)
      cases same
      exact ⟨rfl, attempted⟩
  | @succeeded batch failures others split =>
      have attempted := attempting.calling batch _ (split.mem_iff.mpr (.head _))
      refine attempting.worked tallied conserved split rfl (fun id apart => by simpa using apart)
        rfl (by simp) rfl (by simp) (fun other member => ?_)
      have member : (other, .returned (.ok ())) ∈ before.batching.ended ∨ other = batch := by
        simpa using member
      refine member.imp id fun same => ⟨same, ?_⟩
      exact attempted.append rfl rfl fun id has => by simpa [List.filter_cons] using has
  | aborted split =>
      exact attempting.worked tallied conserved split rfl (by simp) rfl (by simp) rfl (by simp)
        (fun other member => .inl (by simpa using member))
  | failed split | overruled split | crashed split =>
      exact attempting.worked tallied conserved split rfl (fun id apart => by simpa using apart)
        rfl (by simp) rfl (by simp) (fun other member => .inl (by simpa using member))
  | served split serving laterServing minor =>
      refine attempting.congr rfl (by simp) rfl (by simp [called minor]) (by simp [ended minor])
        (fun batch phase member => ?_)
      have elsewhere := mem_of_not_isServing laterServing (by simp) member
      exact split.mem_iff.mpr (.tail _ elsewhere)
  | flushed split _ new minor | entered split new minor =>
      refine attempting.congr rfl (by simp) rfl (by simp [called minor]) (by simp [ended minor])
        (fun batch phase member => ?_)
      have elsewhere := mem_of_not_isServing (fun _ started => (new _ started).isServing) (by simp)
        member
      exact split.mem_iff.mpr (by simpa using elsewhere)
  | returned split minor | ended split _ _ minor =>
      exact attempting.congr rfl (by simp) rfl (by simp [called minor]) (by simp [ended minor])
        (by simp [split.mem_iff])
  | left split =>
      exact attempting.congr (List.append_nil _).symm (by simp) rfl rfl rfl
        fun _ _ member => split.mem_iff.mpr (.tail _ member)
  | reordered same =>
      exact attempting.congr (List.append_nil _).symm (by simp) rfl rfl rfl
        fun _ _ member => same.mem_iff.mpr member
  | called | arrived =>
      exact attempting.congr (List.append_nil _).symm (by simp) rfl rfl rfl (by simp)
  | cancelled | elapsed | dropped => exact { attempting with }
  | passed split | checked split =>
      exact attempting.congr (List.append_nil _).symm (by simp) rfl rfl rfl
        (by simp [split.mem_iff])
  | rejected split | began split | refused split | skipped split | closed split =>
      exact attempting.congr rfl (by simp) rfl (by simp) (by simp) (by simp [split.mem_iff])

end Attempting

end Topic
end PubSub
