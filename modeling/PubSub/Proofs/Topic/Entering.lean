import PubSub.Proofs.Topic.Change

/-!
# Every message enters once

A call that sends a message is answered before its message is accepted, or its message is accepted
under a number. It is not both, and no message is accepted twice. The batcher accepts what the
calls sent, in the form that the driver is given, and a call whose message was accepted is told
what the batcher says about that message.
-/

namespace PubSub
namespace Topic

attribute [local simp] List.filterMap_cons Batcher.countP_cons_toNat

/-! ## Views that do not show the batcher -/

@[simp] theorem entered?_comp_batching :
    Record.entered? ∘ (.batching : Batcher.Record Envelope → Record) = fun _ => none := rfl

@[simp] theorem rejected?_comp_batching :
    Record.rejected? ∘ (.batching : Batcher.Record Envelope → Record) = fun _ => none := rfl

@[simp] theorem returned?_comp_batching :
    Record.returned? ∘ (.batching : Batcher.Record Envelope → Record) = fun _ => none := rfl

/-- A property of tasks that none of those that work for the batcher has. -/
theorem countP_eq_zero_of_isServing
    {property : Activity → Bool}
    (hidden : ∀ activity, activity.IsServing → property activity = false)
    {tasks : List Activity}
    (serving : ∀ activity ∈ tasks, activity.IsServing) : tasks.countP property = 0 :=
  List.countP_eq_zero.mpr fun activity member =>
    Bool.not_eq_true _ ▸ hidden activity (serving activity member)

/-- A view of the batcher that shows nothing minor. -/
theorem filterMap_eq_nil_of_isMinor {View : Type}
    {view : Batcher.Record Envelope → Option View}
    (hidden : ∀ record, isMinor record = true → view record = none)
    {happened : List (Batcher.Record Envelope)}
    (minor : ∀ record ∈ happened, isMinor record = true) : happened.filterMap view = [] :=
  List.filterMap_eq_nil_iff.mpr fun record member => hidden record (minor record member)

theorem accepted?_of_isMinor
    (record : Batcher.Record Envelope)
    (minor : isMinor record = true) : record.accepted? = none := by
  cases record <;> simp_all

/-! ## One place for every call -/

/-- Whether a task is a call with this number whose message is not yet accepted. -/
@[simp] def Activity.isEntering (number : Nat) : Activity → Bool
  | .sender _ (.adding (.awaiting _)) => false
  | .sender send _ => send.number == number
  | _ => false

/-- How often a call stands among those that are about to enter, have entered, or were rejected. -/
def Session.places (session : Session) (number : Nat) : Nat :=
  session.activities.countP (Activity.isEntering number)
    + session.entered.countP (·.1.number == number)
    + session.rejected.countP (·.1.number == number)

/-- Every call has one place at most. -/
structure Placed (session : Session) : Prop where
  single : ∀ number, session.places number ≤ 1
  known : ∀ number, 0 < session.places number → number < session.sends

namespace Placed

variable {before after : Session}

theorem create (setup : Setup) : Placed setup.session where
  single _ := Nat.zero_le 1
  known _ place := absurd place (Nat.lt_irrefl 0)

/-- A call that leaves its place, or takes another, makes no difference. -/
theorem mono
    (placed : Placed before)
    (fewer : ∀ number, after.places number ≤ before.places number)
    (sends : after.sends = before.sends) : Placed after where
  single number := Nat.le_trans (fewer number) (placed.single number)
  known number place := by
    rw [sends]
    exact placed.known number (Nat.lt_of_lt_of_le place (fewer number))

/-- A new call has a new number. -/
theorem called
    (placed : Placed before)
    (places : ∀ number, after.places number =
      before.places number + (before.sends == number).toNat)
    (sends : after.sends = before.sends + 1) : Placed after where
  single number := by
    have known := placed.known number
    have single := placed.single number
    rw [places]
    by_cases new : before.sends = number
    · simp only [new, beq_self_eq_true, Bool.toNat_true]
      omega
    · simp only [beq_eq_false_iff_ne.mpr new, Bool.toNat_false]
      omega
  known number place := by
    have known := placed.known number
    rw [places] at place
    rw [sends]
    by_cases new : before.sends = number
    · omega
    · simp only [beq_eq_false_iff_ne.mpr new, Bool.toNat_false] at place
      omega

theorem isEntering_of_isServing
    (number : Nat)
    (activity : Activity)
    (serving : activity.IsServing) : activity.isEntering number = false := by
  cases serving <;> rfl

theorem change (change : Change before after) (placed : Placed before) : Placed after := by
  have hidden (number : Nat) {tasks : List Activity}
      (serving : ∀ activity ∈ tasks, activity.IsServing) :
      tasks.countP (Activity.isEntering number) = 0 :=
    countP_eq_zero_of_isServing (isEntering_of_isServing number) serving
  cases change with
  | called => exact placed.called (fun number => by simp [Session.places]; omega) rfl
  | rejected split reason =>
      refine placed.mono (fun number => ?_) rfl
      cases reason <;> simp [Session.places, split.countP_eq] <;> omega
  | entered split new =>
      refine placed.mono (fun number => ?_) rfl
      have none := hidden number fun activity member => (new activity member).isServing
      simp [Session.places, split.countP_eq, none]
      omega
  | served split serving laterServing =>
      refine placed.mono (fun number => ?_) rfl
      have none := hidden number laterServing
      simp [Session.places, split.countP_eq, none]
  | flushed split _ new =>
      refine placed.mono (fun number => ?_) rfl
      have none := hidden number fun activity member => (new activity member).isServing
      simp [Session.places, split.countP_eq, none]
  | left split => exact placed.mono (fun number => by simp [Session.places, split.countP_eq]) rfl
  | reordered same => exact placed.mono (fun number => by simp [Session.places, same.countP_eq]) rfl
  | arrived | cancelled | elapsed | dropped =>
      exact placed.mono (fun number => by simp [Session.places]) rfl
  | passed split | checked split | returned split | announced split | sent split | retried split
  | resumed split | succeeded split | failed split | aborted split | overruled split
  | crashed split | began split | refused split | ended split | skipped split | closed split =>
      exact placed.mono (fun number => by simp [Session.places, split.countP_eq]) rfl

end Placed

theorem placed_sessionOf (setup : Setup) (moves : List Move) : Placed (sessionOf setup moves) :=
  sessionOf_induction (.create setup) .change moves

/-! ## What callers sent, and what the batcher accepted -/

/-- A sender stands where its call has brought it. -/
inductive Sender.Fits (entered : List (Send × Nat)) (send : Send) : Sender → Prop
  | sending : Fits entered send (.sending send.message)
  | checking : Fits entered send (.checking send.message)
  | entering {envelope : Envelope} (encoded : send.message.toEnvelope = .ok envelope) :
      Fits entered send (.adding (.entering envelope.byteSize envelope))
  | awaiting {id : Nat} (accepted : (send, id) ∈ entered) :
      Fits entered send (.adding (.awaiting id))

theorem Sender.Fits.mono
    {earlier later : List (Send × Nat)}
    {send : Send}
    {sender : Sender}
    (fits : sender.Fits earlier send)
    (kept : earlier ⊆ later) : sender.Fits later send := by
  cases fits with
  | sending => exact .sending
  | checking => exact .checking
  | entering encoded => exact .entering encoded
  | awaiting accepted => exact .awaiting (kept accepted)

/-- What was sent is what is accepted, and what the batcher says is what callers are told. -/
structure Carried (session : Session) : Prop where
  senders : ∀ send sender, .sender send sender ∈ session.activities →
    sender.Fits session.entered send
  accepted :
    session.batching.accepted.map (fun entry => (entry.id, Except.ok entry.item)) =
      session.entered.map fun entry => (entry.2, entry.1.message.toEnvelope)
  returned : ∀ send id result, (send, id, result) ∈ session.returned →
    (send, id) ∈ session.entered ∧
      ∃ told, .returned send.context id told ∈ session.batching.records ∧
        senderResult told = result

namespace Carried

variable {before after : Session}

theorem create (setup : Setup) : Carried setup.session where
  senders := by simp [Setup.session]
  accepted := rfl
  returned := by simp [Setup.session]

/-- Nobody is answered, and nobody sends anything new. -/
theorem congr
    (carried : Carried before)
    (senders : ∀ send sender, .sender send sender ∈ after.activities →
      .sender send sender ∈ before.activities)
    (accepted : after.batching.accepted = before.batching.accepted)
    (entered : after.entered = before.entered)
    (returned : after.returned = before.returned)
    (recorded : before.batching.records ⊆ after.batching.records) : Carried after where
  senders send sender member := entered ▸ carried.senders send sender (senders send sender member)
  accepted := by rw [accepted, entered]; exact carried.accepted
  returned send id result member := by
    rw [returned] at member
    obtain ⟨known, told, said, same⟩ := carried.returned send id result member
    exact ⟨entered ▸ known, told, recorded said, same⟩

/-- A sender goes on. -/
theorem wentOn
    (carried : Carried before)
    {send : Send}
    {sender later : Sender}
    {others : List Activity}
    (split : before.activities.Perm (.sender send sender :: others))
    (fits : sender.Fits before.entered send → later.Fits before.entered send) :
    Carried { before with activities := .sender send later :: others } where
  senders other task member := by
    rcases List.mem_cons.mp member with same | elsewhere
    · cases same
      exact fits (carried.senders send sender (split.mem_iff.mpr (.head _)))
    · exact carried.senders other task (split.mem_iff.mpr (.tail _ elsewhere))
  accepted := carried.accepted
  returned := carried.returned

/-- A message is accepted. -/
theorem entered
    (carried : Carried before)
    {send : Send}
    {envelope : Envelope}
    {id size : Nat}
    {started others : List Activity}
    (split : before.activities.Perm (.sender send (.adding (.entering size envelope)) :: others))
    (new : ∀ activity ∈ started, activity.IsStarted)
    (activities : after.activities = started ++ .sender send (.adding (.awaiting id)) :: others)
    (accepted : after.batching.accepted =
      before.batching.accepted ++ [{ id, item := envelope, size }])
    (entered : after.entered = before.entered ++ [(send, id)])
    (returned : after.returned = before.returned)
    (recorded : before.batching.records ⊆ after.batching.records) : Carried after where
  senders other task member := by
    have kept : before.entered ⊆ after.entered := entered ▸ List.subset_append_left ..
    rw [activities] at member
    have apart := mem_of_not_isServing (fun _ started => (new _ started).isServing) (by simp) member
    rcases List.mem_cons.mp apart with same | elsewhere
    · cases same
      exact .awaiting (entered ▸ List.mem_append_right _ (.head _))
    · exact (carried.senders other task (split.mem_iff.mpr (.tail _ elsewhere))).mono kept
  accepted := by
    have encoded : send.message.toEnvelope = .ok envelope := by
      cases carried.senders send _ (split.mem_iff.mpr (.head _)) with
      | entering encoded => exact encoded
    rw [accepted, entered, List.map_append, List.map_append, carried.accepted]
    simp [encoded]
  returned other number result member := by
    rw [returned] at member
    obtain ⟨known, told, said, same⟩ := carried.returned other number result member
    exact ⟨entered ▸ List.mem_append_left _ known, told, recorded said, same⟩

/-- A caller is told what the batcher says about its message. -/
theorem told
    (carried : Carried before)
    {send : Send}
    {id : Nat}
    {others : List Activity}
    (split : before.activities.Perm (.sender send (.adding (.awaiting id)) :: others))
    (result : Outcome Unit)
    (activities : after.activities = others)
    (accepted : after.batching.accepted = before.batching.accepted)
    (entered : after.entered = before.entered)
    (returned : after.returned = before.returned ++ [(send, id, senderResult result)])
    (recorded : before.batching.records ⊆ after.batching.records)
    (said : .returned send.context id result ∈ after.batching.records) : Carried after where
  senders other task member :=
    entered ▸ carried.senders other task (split.mem_iff.mpr (.tail _ (activities ▸ member)))
  accepted := by rw [accepted, entered]; exact carried.accepted
  returned other number told member := by
    rw [returned, List.mem_append, List.mem_singleton] at member
    rw [entered]
    rcases member with earlier | same
    · obtain ⟨known, inner, heard, same⟩ := carried.returned other number told earlier
      exact ⟨known, inner, recorded heard, same⟩
    · cases same
      cases carried.senders send _ (split.mem_iff.mpr (.head _)) with
      | awaiting known => exact ⟨known, result, said, rfl⟩

theorem change (change : Change before after) (carried : Carried before) : Carried after := by
  have hidden {happened : List (Batcher.Record Envelope)} :=
    @filterMap_eq_nil_of_isMinor _ _ accepted?_of_isMinor happened
  cases change with
  | called =>
      refine { carried with senders := fun send sender member => ?_ }
      rcases List.mem_cons.mp member with same | earlier
      · cases same
        exact .sending
      · exact carried.senders send sender earlier
  | passed split =>
      exact carried.wentOn split fun fits => by cases fits; exact .checking
  | checked split encoded =>
      exact carried.wentOn split fun fits => by cases fits; exact .entering encoded
  | entered split new minor =>
      exact carried.entered split new rfl (by simp [hidden minor]) (by simp) (by simp) (by simp)
  | @returned send id result _ _ _ split minor =>
      exact carried.told split result rfl (by simp [hidden minor]) (by simp) (by simp) (by simp)
        (by simp)
  | served split serving laterServing minor =>
      refine carried.congr (fun send sender member => ?_) (by simp [hidden minor]) (by simp)
        (by simp) (by simp)
      have elsewhere := mem_of_not_isServing laterServing (by simp) member
      exact split.mem_iff.mpr (.tail _ elsewhere)
  | flushed split begun new minor =>
      refine carried.congr (fun send sender member => ?_) (by simp [hidden minor]) (by simp)
        (by simp) (by simp)
      have elsewhere := mem_of_not_isServing (fun _ started => (new _ started).isServing) (by simp)
        member
      exact split.mem_iff.mpr (by simpa using elsewhere)
  | ended split begun reason minor =>
      exact carried.congr (by simp [split.mem_iff]) (by simp [hidden minor]) (by simp) (by simp)
        (by simp)
  | reordered same => exact carried.congr (by simp [same.mem_iff]) rfl rfl rfl fun _ => id
  | left split =>
      exact carried.congr (fun _ _ member => split.mem_iff.mpr (.tail _ member)) rfl rfl rfl
        fun _ => id
  | arrived => exact carried.congr (by simp) rfl rfl rfl fun _ => id
  | cancelled | elapsed | dropped => exact { carried with }
  | rejected split =>
      exact carried.congr (fun _ _ member => split.mem_iff.mpr (.tail _ member)) (by simp)
        (by simp) (by simp) (by simp)
  | announced split | sent split | retried split | resumed split | succeeded split | failed split
  | aborted split | overruled split | crashed split | began split | refused split | skipped split
  | closed split =>
      exact carried.congr (by simp [split.mem_iff]) (by simp) (by simp) (by simp) (by simp)

end Carried

theorem carried_sessionOf (setup : Setup) (moves : List Move) : Carried (sessionOf setup moves) :=
  sessionOf_induction (.create setup) .change moves

end Topic
end PubSub
