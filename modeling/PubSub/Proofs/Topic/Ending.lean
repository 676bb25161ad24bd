import PubSub.Proofs.Topic.Entering

/-!
# How a topic ends

The first shutdown that begins leaves its error with the topic, so that no other begins. It flushes
the batcher, closes the driver, and announces that it is done. Once the topic is dropped nobody
calls it any more. The context of the driver calls ends in these two ways only.
-/

namespace PubSub
namespace Topic

attribute [local simp] List.filterMap_cons Batcher.countP_cons_toNat

/-! ## What a shutdown shows -/

@[simp] def Record.began? : Record → Option Nat
  | .began context => some context
  | _ => none

@[simp] def Record.refused? : Record → Option (Nat × Error)
  | .refused context error => some (context, error)
  | _ => none

@[simp] def Record.isClosing : Record → Bool
  | .closing => true
  | _ => false

/-- Whether the end of the topic is announced. -/
@[simp] def Record.isFarewell : Record → Bool
  | .published event => event.kind == .topicShutdown
  | _ => false

@[simp] def Activity.isFlushing : Activity → Bool
  | .shutdown _ (.flushing _) => true
  | _ => false

@[simp] def Activity.isClosing : Activity → Bool
  | .shutdown _ .calling => true
  | _ => false

namespace Session

variable (session : Session)

/-- The shutdowns that have begun, oldest first. -/
@[simp] def began : List Nat := session.records.filterMap Record.began?

/-- The shutdowns that came too late, with what they were answered, oldest first. -/
@[simp] def refused : List (Nat × Error) := session.records.filterMap Record.refused?

/-- How often the driver was asked to close. -/
@[simp] def closes : Nat := session.records.countP Record.isClosing

/-- How often the end of the topic was announced. -/
@[simp] def farewells : Nat := session.records.countP Record.isFarewell

/-- Whether a shutdown has begun. -/
def isEnding : Bool := session.topic.sticky = some .topicShutdown

end Session

@[simp] theorem began?_comp_batching :
    Record.began? ∘ (.batching : Batcher.Record Envelope → Record) = fun _ => none := rfl

@[simp] theorem refused?_comp_batching :
    Record.refused? ∘ (.batching : Batcher.Record Envelope → Record) = fun _ => none := rfl

@[simp] theorem isClosing_comp_batching :
    Record.isClosing ∘ (.batching : Batcher.Record Envelope → Record) = fun _ => false := rfl

@[simp] theorem isFarewell_comp_batching :
    Record.isFarewell ∘ (.batching : Batcher.Record Envelope → Record) = fun _ => false := rfl

@[simp] theorem kind_dispatchedEvent (size : Nat) :
    (dispatchedEvent size).kind = .batchDispatched := rfl

@[simp] theorem kind_failedEvent (size : Nat) (error : Error) :
    (failedEvent size error).kind = .batchFailed := rfl

@[simp] theorem kind_shutdownEvent (result : Outcome Unit) :
    (shutdownEvent result).kind = .topicShutdown := rfl

/-! ## One shutdown -/

/-- One shutdown begins, closes the driver and announces the end, in this order and each once. -/
structure Shutting (session : Session) : Prop where
  began : session.began.length = session.isEnding.toNat
  context : ∀ context closing, .shutdown context closing ∈ session.activities →
    closing ≠ .begin → context ∈ session.began
  once : session.activities.countP Activity.isFlushing + session.closes ≤ session.began.length
  announced : session.activities.countP Activity.isClosing + session.farewells ≤ session.closes
  refused : ∀ refusal ∈ session.refused, refusal.2 = .topicShutdown ∧ session.isEnding = true

namespace Shutting

variable {before after : Session}

theorem create (setup : Setup) : Shutting setup.session where
  began := rfl
  context := by simp [Setup.session]
  once := Nat.le_refl 0
  announced := Nat.le_refl 0
  refused := by simp [Setup.session]

/-- No shutdown begins, and none closes the driver. -/
theorem congr
    (shutting : Shutting before)
    (ending : after.isEnding = before.isEnding)
    (began : after.began = before.began)
    (closes : after.closes = before.closes)
    (refused : ∀ refusal ∈ after.refused,
      refusal ∈ before.refused ∨ refusal.2 = .topicShutdown ∧ before.isEnding = true)
    (context : ∀ context closing, .shutdown context closing ∈ after.activities →
      closing ≠ .begin → .shutdown context closing ∈ before.activities)
    (flushing : after.activities.countP Activity.isFlushing ≤
      before.activities.countP Activity.isFlushing)
    (announced : after.activities.countP Activity.isClosing + after.farewells ≤
      before.activities.countP Activity.isClosing + before.farewells) : Shutting after where
  began := by rw [began, ending]; exact shutting.began
  context number closing member begun := by
    rw [began]
    exact shutting.context number closing (context number closing member begun) begun
  once := by
    rw [began, closes]
    exact Nat.le_trans (Nat.add_le_add_right flushing _) shutting.once
  announced := by
    rw [closes]
    exact Nat.le_trans announced shutting.announced
  refused refusal member := by
    rw [ending]
    exact (refused refusal member).elim (shutting.refused refusal) id

/-- The shutdown that has begun goes on. -/
theorem wentOn
    (shutting : Shutting before)
    {context : Nat}
    {closing later : Closing}
    {started others : List Activity}
    (split : before.activities.Perm (.shutdown context closing :: others))
    (begun : closing ≠ .begin)
    (new : ∀ activity ∈ started, activity.IsStarted)
    (activities : after.activities = started ++ .shutdown context later :: others)
    (ending : after.isEnding = before.isEnding)
    (began : after.began = before.began)
    (refused : after.refused = before.refused)
    (farewells : after.farewells = before.farewells)
    (flushing : after.closes + (Activity.shutdown context later).isFlushing.toNat =
      before.closes + (Activity.shutdown context closing).isFlushing.toNat)
    (calling : (Activity.shutdown context later).isClosing.toNat + before.closes ≤
      after.closes + (Activity.shutdown context closing).isClosing.toNat) : Shutting after := by
  have countStarted (kind : Activity → Bool)
      (never : ∀ activity, activity.IsServing → kind activity = false) :
      started.countP kind = 0 :=
    countP_eq_zero_of_isServing never fun activity member => (new activity member).isServing
  have noFlush := countStarted Activity.isFlushing fun activity serving => by cases serving <;> rfl
  have noClose := countStarted Activity.isClosing fun activity serving => by cases serving <;> rfl
  have once := shutting.once
  have announced := shutting.announced
  rw [split.countP_eq, Batcher.countP_cons_toNat] at once announced
  refine ⟨?_, fun number other member otherBegun => ?_, ?_, ?_, ?_⟩
  · rw [began, ending]
    exact shutting.began
  · rw [began]
    rw [activities] at member
    have apart := mem_of_not_isServing (fun _ started => (new _ started).isServing) (by simp) member
    rcases List.mem_cons.mp apart with same | elsewhere
    · cases same
      exact shutting.context context closing (split.mem_iff.mpr (.head _)) begun
    · exact shutting.context number other (split.mem_iff.mpr (.tail _ elsewhere)) otherBegun
  · rw [began, activities, List.countP_append, Batcher.countP_cons_toNat, noFlush]
    omega
  · rw [farewells, activities, List.countP_append, Batcher.countP_cons_toNat, noClose]
    omega
  · rw [refused, ending]
    exact shutting.refused

/-- The first shutdown begins. -/
theorem first
    (shutting : Shutting before)
    {context : Nat}
    {others : List Activity}
    (split : before.activities.Perm (.shutdown context .begin :: others))
    (lasting : before.isEnding = false)
    (activities : after.activities = .shutdown context (.flushing .starting) :: others)
    (ending : after.isEnding = true)
    (began : after.began = before.began ++ [context])
    (refused : after.refused = before.refused)
    (farewells : after.farewells = before.farewells)
    (closes : after.closes = before.closes) : Shutting after := by
  have none := shutting.began
  have once := shutting.once
  have announced := shutting.announced
  rw [split.countP_eq, Batcher.countP_cons_toNat] at once announced
  rw [lasting, Bool.toNat_false] at none
  refine ⟨?_, fun number closing member begun => ?_, ?_, ?_, ?_⟩
  · rw [began, ending, List.length_append, none]
    rfl
  · rw [began]
    rw [activities] at member
    rcases List.mem_cons.mp member with same | elsewhere
    · cases same
      exact List.mem_append_right _ (.head _)
    · have known := shutting.context number closing (split.mem_iff.mpr (.tail _ elsewhere)) begun
      exact List.mem_append_left _ known
  · rw [began, closes, activities, Batcher.countP_cons_toNat, List.length_append]
    simp only [Activity.isFlushing, Bool.toNat_true, List.length_singleton]
    omega
  · rw [closes, farewells, activities, Batcher.countP_cons_toNat]
    simpa using announced
  · rw [refused, ending]
    exact fun refusal member => ⟨(shutting.refused refusal member).1, rfl⟩

/-- A shutdown that has begun shows on the topic. -/
theorem isEnding_of_begun
    {session : Session}
    (shutting : Shutting session)
    {context : Nat}
    {closing : Closing}
    (member : .shutdown context closing ∈ session.activities)
    (begun : closing ≠ .begin) : session.isEnding = true := by
  have known := List.length_pos_of_mem (shutting.context context closing member begun)
  rw [shutting.began] at known
  cases ending : session.isEnding with
  | true => rfl
  | false =>
      rw [ending] at known
      contradiction

/-- The only shutdown that has begun is the one that is at work. -/
theorem began_eq
    {session : Session}
    (shutting : Shutting session)
    {context : Nat}
    {closing : Closing}
    (member : .shutdown context closing ∈ session.activities)
    (begun : closing ≠ .begin) : session.began = [context] := by
  have known := shutting.context context closing member begun
  have single := shutting.began
  rw [shutting.isEnding_of_begun member begun, Bool.toNat_true] at single
  obtain ⟨only, same⟩ := List.length_eq_one_iff.mp single
  rw [same, List.mem_singleton] at known
  rw [same, known]

theorem change (change : Change before after) (shutting : Shutting before) : Shutting after := by
  have countServing {tasks : List Activity} (serving : ∀ activity ∈ tasks, activity.IsServing) :
      tasks.countP Activity.isFlushing = 0 ∧ tasks.countP Activity.isClosing = 0 := by
    constructor
    · exact countP_eq_zero_of_isServing (fun activity serving => by cases serving <;> rfl) serving
    · exact countP_eq_zero_of_isServing (fun activity serving => by cases serving <;> rfl) serving
  cases change with
  | began split first =>
      exact shutting.first split (decide_eq_false first) rfl (decide_eq_true rfl) (by simp)
        (by simp) (by simp) (by simp)
  | @refused context others split ending =>
      refine shutting.congr rfl (by simp) (by simp) (fun refusal member => ?_)
        (by simp +contextual [split.mem_iff]) (by simp [split.countP_eq])
        (by simp [split.countP_eq])
      have cases : refusal ∈ before.refused ∨ refusal = (context, .topicShutdown) := by
        simpa using member
      refine cases.imp_right fun same => ?_
      subst same
      exact ⟨rfl, decide_eq_true ending⟩
  | flushed split begun new =>
      exact shutting.wentOn split nofun new rfl rfl (by simp) (by simp) (by simp) (by simp)
        (by simp)
  | ended split | skipped split =>
      have none : ∀ activity ∈ ([] : List Activity), activity.IsStarted := by simp
      exact shutting.wentOn split nofun none rfl rfl (by simp) (by simp) (by simp) (by simp)
        (by simp; omega)
  | closed split =>
      exact shutting.congr rfl (by simp) (by simp) (fun _ member => .inl (by simpa using member))
        (by simp +contextual [split.mem_iff]) (by simp [split.countP_eq])
        (by simp [split.countP_eq]; omega)
  | failed split live permanent same =>
      subst same
      refine shutting.congr ?_ (by simp) (by simp) (fun _ member => .inl (by simpa using member))
        (by simp +contextual [split.mem_iff]) (by simp [split.countP_eq])
        (by simp [split.countP_eq])
      cases sticky : before.topic.sticky <;> simp [Session.isEnding, sticky]
  | retried split live transient scheduled =>
      exact shutting.congr rfl (by simp) (by simp) (fun _ member => .inl (by simpa using member))
        (by simp +contextual [split.mem_iff]) (by simp [split.countP_eq])
        (by simp [split.countP_eq, scheduled])
  | served split serving laterServing =>
      obtain ⟨noFlush, noClose⟩ := countServing laterServing
      refine shutting.congr rfl (by simp) (by simp) (fun _ member => .inl (by simpa using member))
        (fun context closing member _ => ?_) (by simp [split.countP_eq, noFlush])
        (by simp [split.countP_eq, noClose])
      have elsewhere := mem_of_not_isServing laterServing (by simp) member
      exact split.mem_iff.mpr (.tail _ elsewhere)
  | entered split new =>
      obtain ⟨noFlush, noClose⟩ :=
        countServing fun activity member => (new activity member).isServing
      refine shutting.congr rfl (by simp) (by simp) (fun _ member => .inl (by simpa using member))
        (fun context closing member _ => ?_) (by simp [split.countP_eq, noFlush])
        (by simp [split.countP_eq, noClose])
      have elsewhere := mem_of_not_isServing (fun _ started => (new _ started).isServing) (by simp)
        member
      exact split.mem_iff.mpr (by simpa using elsewhere)
  | called =>
      exact shutting.congr rfl rfl rfl (fun _ => .inl) (by simp +contextual) (by simp) (by simp)
  | arrived =>
      refine shutting.congr rfl rfl rfl (fun _ => .inl) (fun context closing member begun => ?_)
        (by simp) (by simp)
      rcases List.mem_cons.mp member with same | earlier
      · cases same
        contradiction
      · exact earlier
  | cancelled | elapsed | dropped => exact { shutting with }
  | reordered same =>
      exact shutting.congr rfl rfl rfl (fun _ => .inl) (by simp +contextual [same.mem_iff])
        (by simp [same.countP_eq]) (by simp [same.countP_eq])
  | left split =>
      exact shutting.congr rfl rfl rfl (fun _ => .inl) (by simp +contextual [split.mem_iff])
        (by simp [split.countP_eq]) (by simp [split.countP_eq])
  | passed split | checked split | resumed split =>
      exact shutting.congr rfl rfl rfl (fun _ => .inl) (by simp +contextual [split.mem_iff])
        (by simp [split.countP_eq]) (by simp [split.countP_eq])
  | rejected split | returned split | announced split | sent split | succeeded split | aborted split
  | overruled split | crashed split =>
      exact shutting.congr rfl (by simp) (by simp) (fun _ member => .inl (by simpa using member))
        (by simp +contextual [split.mem_iff]) (by simp [split.countP_eq])
        (by simp [split.countP_eq])

end Shutting

theorem shutting_sessionOf (setup : Setup) (moves : List Move) :
    Shutting (sessionOf setup moves) :=
  sessionOf_induction (.create setup) .change moves

/-! ## Nobody calls a topic that was dropped -/

/-- What is known about a topic that is shut down or dropped. -/
structure Ending (session : Session) : Prop where
  expired : session.topic.backgroundEnded = true → session.dropped = true ∨ session.isEnding = true
  nobody : session.dropped = true → ∀ activity ∈ session.activities, activity.isCaller = false

namespace Ending

variable {before after : Session}

theorem create (setup : Setup) : Ending setup.session where
  expired ended := nomatch ended
  nobody _ := by simp [Setup.session]

/-- A task takes a turn, and is no caller afterwards if it was none before. -/
theorem turned
    (ending : Ending before)
    {activity : Activity}
    {others : List Activity}
    (split : before.activities.Perm (activity :: others))
    (later : List Activity)
    (activities : after.activities = later ++ others)
    (dropped : after.dropped = before.dropped)
    (callers : activity.isCaller = false → ∀ task ∈ later, task.isCaller = false)
    (isEnding : before.isEnding = true → after.isEnding = true)
    (expired : after.topic.backgroundEnded = true →
      before.topic.backgroundEnded = true ∨ after.isEnding = true) : Ending after where
  expired ended := by
    rw [dropped]
    rcases expired ended with earlier | now
    · exact (ending.expired earlier).imp_right isEnding
    · exact .inr now
  nobody isDropped := by
    have nobody := ending.nobody (dropped ▸ isDropped)
    rw [activities]
    intro task member
    rcases List.mem_append.mp member with own | elsewhere
    · exact callers (nobody activity (split.mem_iff.mpr (.head _))) task own
    · exact nobody task (split.mem_iff.mpr (.tail _ elsewhere))

theorem change
    (change : Change before after)
    (shutting : Shutting before)
    (ending : Ending before) : Ending after := by
  cases change with
  | called held | arrived held =>
      exact ⟨ending.expired, fun isDropped => absurd (held.symm.trans isDropped) nofun⟩
  | dropped nobody => exact ⟨fun _ => .inl rfl, fun _ => by simpa using nobody⟩
  | reordered same => exact ⟨ending.expired, by simpa [← same.mem_iff] using ending.nobody⟩
  | cancelled | elapsed => exact { ending with }
  | began split =>
      exact ending.turned split [_] rfl rfl (by simp [Activity.isCaller])
        (fun _ => decide_eq_true rfl) fun _ => .inr (decide_eq_true rfl)
  | ended split | skipped split =>
      have isEnding := shutting.isEnding_of_begun (split.mem_iff.mpr (.head _)) nofun
      exact ending.turned split [_] rfl rfl (by simp [Activity.isCaller]) (fun _ => isEnding)
        fun _ => .inr isEnding
  | failed split =>
      refine ending.turned split [_] rfl rfl (by simp [Activity.isCaller]) (fun isEnding => ?_)
        fun ended => .inl ended
      simp_all [Session.isEnding]
  | @entered send _ _ _ started _ _ split new =>
      exact ending.turned split (started ++ [_]) (List.append_cons ..) rfl
        (by simp [Activity.isCaller]) id .inl
  | flushed split begun new =>
      exact ending.turned split (_ ++ [_]) (List.append_cons ..) rfl (by simp [Activity.isCaller])
        id .inl
  | rejected split | returned split | refused split | closed split | left split =>
      exact ending.turned split [] rfl rfl (by simp) id .inl
  | served split serving laterServing =>
      refine ending.turned split _ rfl rfl (fun _ task own => ?_) id .inl
      cases laterServing task own <;> rfl
  | passed split | checked split | announced split | sent split | retried split | resumed split
  | succeeded split | aborted split | overruled split | crashed split =>
      exact ending.turned split [_] rfl rfl (by simp [Activity.isCaller]) id .inl

end Ending

theorem ending_sessionOf (setup : Setup) (moves : List Move) : Ending (sessionOf setup moves) :=
  sessionOf_induction (.create setup)
    (fun change ending => ending.change change (shutting_sessionOf setup _)) moves

end Topic
end PubSub
