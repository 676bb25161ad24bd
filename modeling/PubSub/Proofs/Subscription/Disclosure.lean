import PubSub.Proofs.Subscription.Turns

/-!
# Which errors a shutdown tells

A batch of acknowledgments that fails for good leaves an error that somebody has to be told. A
shutdown tells it, unless a receiver was told an error in the meantime: a subscription forgets
the error whenever it answers a receiver with a permanent one, whichever error the receiver is
told.

`Disclosure` is the part of the records that matters here. The error that is owed follows from
it, and every shutdown tells what is owed when it closes the driver.
-/

namespace PubSub
namespace Subscription

variable {Number : Type}

/-! ## What is owed -/

/-- Something that has to do with errors of acknowledgments. -/
inductive Disclosure
  /-- A batch of acknowledgments failed for good. -/
  | failed (error : Error)
  /-- A receiver was told a permanent error. -/
  | told (error : Error)
  /-- A shutdown whose driver was closed without an error told this error, if any. -/
  | closed (error : Option Error)
  deriving DecidableEq

/-- The disclosure in a record. The end of a context is not a permanent error. -/
@[simp] def Record.disclosure? : Record → Option Disclosure
  | .failed _ error => if error = .canceled then none else some (.failed error)
  | .received _ (.error error) => if error = .canceled then none else some (.told error)
  | .closed _ (.ok _) result => some (.closed (errorOf? result))
  | _ => none

/-- The disclosures of a session, oldest first. -/
@[simp] def Session.disclosures (session : Session Number) : List Disclosure :=
  session.records.filterMap Record.disclosure?

namespace Disclosure

/-- The error that is owed after a disclosure. -/
def owed : Disclosure → Option Error
  | .failed error => some error
  | .told _ => none
  | .closed _ => none

/-- A shutdown tells the error that is owed; without one it tells at most that its context is
cancelled. -/
def IsDue (before : Option Error) : Disclosure → Prop
  | .closed answer => answer = before ∨ before = none ∧ answer = some .canceled
  | _ => True

/-- The error that is owed after disclosures, if one was owed before. -/
def owedAfter : Option Error → List Disclosure → Option Error
  | before, [] => before
  | _, first :: rest => owedAfter first.owed rest

/-- Every shutdown tells what is due. -/
def Due : Option Error → List Disclosure → Prop
  | _, [] => True
  | before, first :: rest => first.IsDue before ∧ Due first.owed rest

theorem owedAfter_append (before : Option Error) (earlier later : List Disclosure) :
    owedAfter before (earlier ++ later) = owedAfter (owedAfter before earlier) later := by
  induction earlier generalizing before with
  | nil => rfl
  | cons first rest hypothesis => exact hypothesis first.owed

theorem due_append {before : Option Error} {earlier later : List Disclosure} :
    Due before (earlier ++ later) ↔ Due before earlier ∧ Due (owedAfter before earlier) later := by
  induction earlier generalizing before with
  | nil => simp [Due, owedAfter]
  | cons first rest hypothesis =>
      simp only [List.cons_append, Due, owedAfter, hypothesis, and_assoc]

/-- Failures that nobody was told about are owed, the last one of them. -/
theorem exists_owedAfter_eq
    {error : Error}
    {later : List Disclosure}
    (untold : ∀ disclosure ∈ later, ∃ other, disclosure = .failed other) :
    ∃ last, .failed last ∈ .failed error :: later ∧ owedAfter (some error) later = some last := by
  induction later generalizing error with
  | nil => exact ⟨error, .head _, rfl⟩
  | cons first rest hypothesis =>
      obtain ⟨other, rfl⟩ := untold first (.head _)
      obtain ⟨last, member, owed⟩ := hypothesis fun disclosure later =>
        untold disclosure (.tail _ later)
      exact ⟨last, .tail _ member, owed⟩

/-- Only a failure is owed, and only as long as nothing else is disclosed. -/
theorem exists_eq_append_of_owedAfter_eq
    {earlier : List Disclosure}
    {last : Error}
    (owed : owedAfter none earlier = some last) : ∃ before, earlier = before ++ [.failed last] := by
  rcases List.eq_nil_or_concat' earlier with rfl | ⟨before, disclosure, rfl⟩
  · contradiction
  · rw [owedAfter_append] at owed
    cases disclosure with
    | failed error => exact ⟨before, congrArg (before ++ [.failed ·]) (Option.some.inj owed)⟩
    | told | closed => contradiction

/-- Whether a shutdown has closed the driver. -/
def isClosed : Disclosure → Bool
  | .closed _ => true
  | _ => false

end Disclosure

/-! ## Who may still be told -/

@[simp] def Activity.closing? : Activity → Option Nat
  | .shutdown context (.flushing _) => some context
  | .shutdown context .calling => some context
  | _ => none

@[simp] def Record.closed? : Record → Option Nat
  | .closed context _ _ => some context
  | _ => none

namespace Session

variable (session : Session Number)

/-- The shutdowns that have begun. -/
@[simp] def closing : List Nat := session.activities.filterMap Activity.closing?

/-- The shutdowns that have closed the driver. -/
@[simp] def closed : List Nat := session.records.filterMap Record.closed?

/-- Whether the subscription was shut down, or is being shut down. -/
def isEnding : Bool := session.subscription.sticky = some .subscriptionShutdown

end Session

/-- Somebody who holds the subscription has not dropped it, and the context of the driver calls
was cancelled if a driver call says so. -/
def Activity.Fits (session : Session Number) : Activity → Prop
  | .receiver .. => session.dropped = false
  | .shutdown .. => session.dropped = false
  | .fetch (.storing _ (.error error)) =>
      error = .canceled → session.subscription.backgroundEnded = true
  | _ => True

theorem Activity.IsAcking.fits
    {session : Session Number}
    {activity : Activity}
    (acking : activity.IsAcking) : activity.Fits session := by
  cases acking <;> trivial

theorem Activity.Fits.mono
    {before after : Session Number}
    {activity : Activity}
    (fits : activity.Fits before)
    (dropped : after.dropped = before.dropped)
    (background : before.subscription.backgroundEnded = true →
      after.subscription.backgroundEnded = true) : activity.Fits after := by
  cases activity with
  | receiver | shutdown => exact dropped.trans fits
  | fetch fetch =>
      cases fetch with
      | storing number result =>
          cases result with
          | ok envelopes => trivial
          | error error => exact fun canceled => background (fits canceled)
      | _ => trivial
  | _ => trivial

/-- Once the context of the driver calls is cancelled, only callers may be in the way. -/
theorem fits_of_not_isCaller
    {session : Session Number}
    {activity : Activity}
    (notCaller : activity.isCaller = false)
    (background : session.subscription.backgroundEnded = true) : activity.Fits session := by
  cases activity with
  | receiver | shutdown => contradiction
  | fetch fetch =>
      cases fetch with
      | storing number result =>
          cases result with
          | ok envelopes => trivial
          | error error => exact fun _ => background
      | _ => trivial
  | _ => trivial

theorem fits_storing_checkFetched
    (session : Session Number)
    (number : Nat)
    (fetched : List Envelope) :
    Activity.Fits session
      (.fetch (.storing number (session.subscription.checkFetched fetched))) := by
  unfold checkFetched
  split
  next => exact fun canceled => nomatch canceled
  next => trivial

theorem closed?_of_isMinor (record : Record) (minor : record.isMinor = true) :
    record.closed? = none := by
  cases record <;> simp_all

theorem closing?_of_isAcking (activity : Activity) (acking : activity.IsAcking) :
    activity.closing? = none := by
  cases acking <;> rfl

/-- Only one shutdown closes the driver, and nobody is left who could be told that the context
of the driver calls was cancelled. -/
structure Ordered (session : Session Number) : Prop where
  fits : ∀ activity ∈ session.activities, activity.Fits session
  background : session.subscription.backgroundEnded = true →
    session.dropped = true ∨ session.isEnding = true
  sticky : session.subscription.sticky = some .canceled → session.dropped = true
  once : session.closing.length + session.closed.length ≤ session.isEnding.toNat

namespace Ordered

attribute [local simp] List.filterMap_cons

variable {before after : Session Number}

/-- An error may have become the permanent one, if there was none before. -/
theorem troubled
    (ordered : Ordered before)
    {error : Option Error}
    (sticky : after.subscription.sticky = before.subscription.sticky.or error)
    (canceled : error = some .canceled → before.subscription.backgroundEnded = true)
    (background : after.subscription.backgroundEnded = before.subscription.backgroundEnded)
    (dropped : after.dropped = before.dropped)
    (fits : ∀ activity ∈ after.activities, activity.Fits after)
    (once : after.closing.length + after.closed.length ≤
      before.closing.length + before.closed.length) : Ordered after := by
  have ending : before.isEnding = true → after.isEnding = true := by
    intro ending
    rw [Session.isEnding, decide_eq_true_eq] at ending ⊢
    rw [sticky, ending, Option.some_or]
  refine ⟨fits, ?background, ?sticky, ?once⟩
  case background =>
    intro ended
    rw [dropped]
    exact (ordered.background (background ▸ ended)).imp_right ending
  case sticky =>
    intro found
    rw [sticky] at found
    rw [dropped]
    cases earlier : before.subscription.sticky with
    | some other =>
        rw [earlier, Option.some_or] at found
        exact ordered.sticky (earlier.trans found)
    | none =>
        rw [earlier, Option.none_or] at found
        refine (ordered.background (canceled found)).resolve_right fun ending => ?_
        simp [Session.isEnding, earlier] at ending
  case once =>
    refine Nat.le_trans once (Nat.le_trans ordered.once ?_)
    cases earlier : before.isEnding with
    | false => exact Nat.zero_le _
    | true => exact Nat.le_of_eq (congrArg Bool.toNat (ending earlier).symm)

theorem congr
    (ordered : Ordered before)
    (sticky : after.subscription.sticky = before.subscription.sticky)
    (background : after.subscription.backgroundEnded = before.subscription.backgroundEnded)
    (dropped : after.dropped = before.dropped)
    (fits : ∀ activity ∈ after.activities, activity.Fits after)
    (once : after.closing.length + after.closed.length ≤
      before.closing.length + before.closed.length) : Ordered after :=
  ordered.troubled (sticky.trans Option.or_none.symm) nofun background dropped fits once

theorem perm
    {activities : List Activity}
    (same : before.activities.Perm activities)
    (ordered : Ordered before) : Ordered { before with activities } := by
  refine ordered.congr rfl rfl rfl ?_ ?_
  · intro activity member
    exact ordered.fits activity (same.mem_iff.mpr member)
  · exact Nat.le_of_eq (congrArg (· + _) (same.symm.filterMap _).length_eq)

/-- As long as nobody shuts a subscription down, no shutdown has begun. -/
theorem eq_nil_of_not_isEnding
    (ordered : Ordered before)
    (lasting : before.isEnding = false) : before.closing = [] ∧ before.closed = [] := by
  have once := ordered.once
  rw [lasting, Bool.toNat_false] at once
  exact ⟨List.length_eq_zero_iff.mp (by omega), List.length_eq_zero_iff.mp (by omega)⟩

theorem isEnding_of_closing
    (ordered : Ordered before)
    {context : Nat}
    {others : List Nat}
    (closing : before.closing = context :: others) : before.isEnding = true := by
  cases ending : before.isEnding with
  | true => rfl
  | false =>
      rw [(ordered.eq_nil_of_not_isEnding ending).1] at closing
      contradiction

variable [Scalar Number]

theorem create (setup : Setup Number) : Ordered setup.session where
  fits := by simp [Setup.session]
  background := by simp [Setup.session, Setup.subscription, Subscription.create]
  sticky := by simp [Setup.session, Setup.subscription, Subscription.create]
  once := by simp [Setup.session]

theorem change (change : Change before after) (ordered : Ordered before) : Ordered after := by
  cases change with
  | prefetched idle sized =>
      exact ordered.congr rfl rfl rfl (List.forall_mem_cons.mpr ⟨trivial, ordered.fits⟩) (by simp)
  | delivered split | told split | gaveUp split | crashed split | woke split | refused split =>
      have sorted := ordered.perm split
      exact sorted.congr rfl rfl rfl (List.forall_mem_cons.mp sorted.fits).2 (by simp)
  | waited split | resumed split | flushed split =>
      have sorted := ordered.perm split
      have fits := List.forall_mem_cons.mp sorted.fits
      exact sorted.congr rfl rfl rfl (List.forall_mem_cons.mpr fits) (by simp)
  | looked split same minor =>
      have sorted := ordered.perm split
      have fits := (List.forall_mem_cons.mp sorted.fits).2
      have closed := filterMap_append_of_isMinor closed?_of_isMinor before.records minor
      exact sorted.congr rfl rfl rfl (List.forall_mem_cons.mpr ⟨trivial, fits⟩)
        (Nat.le_of_eq (congrArg (_ + List.length ·) closed))
  | returned split | ignored split =>
      have sorted := ordered.perm split
      have fits := (List.forall_mem_cons.mp sorted.fits).2
      exact sorted.congr rfl rfl rfl (List.forall_mem_cons.mpr ⟨trivial, fits⟩) (by simp)
  | @gathered number calls values others split all =>
      have sorted := ordered.perm split
      have fits := (List.forall_mem_cons.mp sorted.fits).2
      have checked := fits_storing_checkFetched before number values.flatten
      exact sorted.congr rfl rfl rfl (List.forall_mem_cons.mpr ⟨checked, fits⟩) (by simp)
  | lost split canceled =>
      have sorted := ordered.perm split
      have fits := (List.forall_mem_cons.mp sorted.fits).2
      exact sorted.congr rfl rfl rfl (List.forall_mem_cons.mpr ⟨canceled, fits⟩) (by simp)
  | @stored number result others split estimator =>
      have sorted := ordered.perm split
      have fits := List.forall_mem_cons.mp sorted.fits
      refine sorted.troubled rfl (fun canceled => ?_) rfl rfl
        (List.forall_mem_cons.mpr ⟨trivial, fits.2⟩) (by simp)
      cases result with
      | ok envelopes => contradiction
      | error error => exact fits.1 (Option.some.inj canceled)
  | @acked acks messages gone new others happened split gone_acking new_acking present minor =>
      have sorted := ordered.perm split
      have fits := (List.forall_mem_append.mp sorted.fits).2
      have closing :=
        filterMap_append_of_isAcking closing?_of_isAcking gone_acking new_acking others
      have closed := filterMap_append_of_isMinor closed?_of_isMinor before.records minor
      refine sorted.congr rfl rfl rfl (List.forall_mem_append.mpr ⟨?_, fits⟩)
        (Nat.le_of_eq (congrArg₂ (List.length · + List.length ·) closing closed))
      exact fun activity member => (new_acking activity member).fits
  | recorded split kept =>
      have sorted := ordered.perm split
      have fits := (List.forall_mem_cons.mp sorted.fits).2
      exact sorted.troubled rfl (fun canceled => absurd (Option.some.inj canceled) kept) rfl rfl
        (List.forall_mem_cons.mpr ⟨trivial, fits⟩) (by simp)
  | @began context others split first =>
      have sorted := ordered.perm split
      have fits := List.forall_mem_cons.mp sorted.fits
      refine ⟨List.forall_mem_cons.mpr fits, fun _ => .inr ?_, fun canceled => ?_, ?_⟩
      · simp [Session.isEnding]
      · simp at canceled
      · have nobody := sorted.eq_nil_of_not_isEnding (decide_eq_false first)
        have alone : others.filterMap Activity.closing? = [] := nobody.1
        have unclosed : before.records.filterMap Record.closed? = [] := nobody.2
        simp only [Session.closing, Session.closed, List.filterMap_cons, Activity.closing?, alone,
          unclosed, Session.isEnding, decide_true, Bool.toNat_true]
        exact Nat.le_refl 1
  | ended split =>
      have sorted := ordered.perm split
      have fits := List.forall_mem_cons.mp sorted.fits
      have ending := sorted.isEnding_of_closing rfl
      refine ⟨List.forall_mem_cons.mpr ⟨fits.1, fun activity member => ?_⟩, fun _ => .inr ending,
        sorted.sticky, ?_⟩
      · exact (fits.2 activity member).mono rfl fun _ => rfl
      · exact Nat.le_trans (Nat.le_of_eq (by simp)) sorted.once
  | closed split =>
      have sorted := ordered.perm split
      have fits := (List.forall_mem_cons.mp sorted.fits).2
      refine sorted.congr rfl rfl rfl fits ?_
      simp
      omega
  | foundEmpty | cancelled | elapsed =>
      exact ordered.congr rfl rfl rfl ordered.fits (Nat.le_refl _)
  | arrived fresh held =>
      cases fresh <;>
        exact ordered.congr rfl rfl rfl (List.forall_mem_cons.mpr ⟨held, ordered.fits⟩) (by simp)
  | left split =>
      have sorted := ordered.perm split
      refine sorted.congr rfl rfl rfl (List.forall_mem_cons.mp sorted.fits).2 ?_
      exact Nat.add_le_add_right ((List.sublist_cons_self ..).filterMap _).length_le _
  | reordered same => exact ordered.perm same
  | dropped unused =>
      refine ⟨fun activity member => ?_, fun _ => .inl rfl, fun _ => rfl, ordered.once⟩
      exact fits_of_not_isCaller (unused activity member) rfl

end Ordered

/-! ## What is told -/

/-- The error that the subscription keeps for its shutdown is the one that is owed, and every
shutdown so far told what was due. -/
structure Owing (session : Session Number) : Prop where
  unreported : session.subscription.unreported = Disclosure.owedAfter none session.disclosures
  due : Disclosure.Due none session.disclosures

theorem disclosure?_of_isMinor (record : Record) (minor : record.isMinor = true) :
    record.disclosure? = none := by
  cases record <;> simp_all

namespace Owing

attribute [local simp] List.filterMap_cons

variable {before after : Session Number}

/-- Nothing was disclosed. -/
theorem congr
    (owing : Owing before)
    (unreported : after.subscription.unreported = before.subscription.unreported)
    (disclosures : after.disclosures = before.disclosures) : Owing after where
  unreported := by rw [unreported, disclosures, owing.unreported]
  due := disclosures ▸ owing.due

/-- Only minor things have happened. -/
theorem minor
    (owing : Owing before)
    (unreported : after.subscription.unreported = before.subscription.unreported)
    {happened : List Record}
    (records : after.records = before.records ++ happened)
    (minor : ∀ record ∈ happened, record.isMinor = true) : Owing after :=
  owing.congr unreported
    ((congrArg _ records).trans (filterMap_append_of_isMinor disclosure?_of_isMinor _ minor))

/-- One thing was disclosed. -/
theorem disclosed
    (owing : Owing before)
    (disclosure : Disclosure)
    (unreported : after.subscription.unreported = disclosure.owed)
    (disclosures : after.disclosures = before.disclosures ++ [disclosure])
    (due : disclosure.IsDue before.subscription.unreported) : Owing after where
  unreported := by rw [unreported, disclosures, Disclosure.owedAfter_append]; rfl
  due := by
    rw [disclosures, Disclosure.due_append, ← owing.unreported]
    exact ⟨owing.due, due, trivial⟩

/-- A shutdown whose driver was closed without an error tells what is due. -/
theorem isDue_of_shutdownResult_eq
    {subscription after : Subscription Number}
    {cancelled : Bool}
    {result : Outcome Unit}
    (told : subscription.shutdownResult cancelled (.ok ()) = (result, after)) :
    Disclosure.IsDue subscription.unreported (.closed (errorOf? result)) ∧
      after.unreported = none := by
  unfold shutdownResult at told
  cases owed : subscription.unreported with
  | some error =>
      rw [owed] at told
      cases told
      exact ⟨.inl rfl, rfl⟩
  | none =>
      rw [owed] at told
      cases told
      cases cancelled with
      | false => exact ⟨.inl rfl, rfl⟩
      | true => exact ⟨.inr ⟨rfl, rfl⟩, rfl⟩

variable [Scalar Number]

theorem create (setup : Setup Number) : Owing setup.session where
  unreported := rfl
  due := trivial

theorem change
    (change : Change before after)
    (ordered : Ordered before)
    (owing : Owing before) : Owing after := by
  cases change with
  | @told context error others split sticky =>
      -- Receivers are told permanent errors only: nobody is left once the context of the driver
      -- calls may be the reason of one.
      have held : before.dropped = false := (ordered.perm split).fits _ (.head _)
      have kept : error ≠ .canceled := by
        rintro rfl
        exact Bool.false_ne_true (held.symm.trans (ordered.sticky sticky))
      exact owing.disclosed (.told error) rfl (by simp [kept]) trivial
  | @recorded batch error others split kept =>
      exact owing.disclosed (.failed error) rfl (by simp [kept]) trivial
  | @closed context others cancelled driver result unreported split told =>
      cases driver with
      | error fault =>
          have same := congrArg (·.2.unreported) told
          exact owing.congr same.symm (by simp)
      | ok _ =>
          obtain ⟨due, cleared⟩ := isDue_of_shutdownResult_eq told
          exact owing.disclosed (.closed (errorOf? result)) cleared (by simp) due
  | looked split same minor => exact owing.minor rfl rfl minor
  | acked split gone_acking new_acking present minor => exact owing.minor rfl rfl minor
  | prefetched | delivered | gaveUp | returned | crashed | stored | ignored | refused | ended =>
      exact owing.congr rfl (by simp)
  | waited | foundEmpty | resumed | gathered | lost | woke | began | flushed | arrived | left
  | reordered | cancelled | elapsed | dropped => exact owing.congr rfl rfl

end Owing

/-! ## Shutdowns -/

section Shutdowns

variable [Scalar Number] {setup : Setup Number} {session : Session Number}

theorem ordered_of_reached (reached : Reached setup session) : Ordered session :=
  reached.preserve .change (.create setup)

theorem owing_of_reached (reached : Reached setup session) : Owing session :=
  reached.induction (.create setup) fun earlier change =>
    .change change (ordered_of_reached earlier)

omit [Scalar Number] in
/-- An error that was disclosed as a failure is a permanent one. -/
theorem ne_canceled_of_mem_disclosures
    {error : Error}
    (member : .failed error ∈ session.disclosures) : error ≠ .canceled := by
  obtain ⟨record, -, same⟩ := List.mem_filterMap.mp member
  cases record with
  | failed batch other =>
      rw [Record.disclosure?] at same
      split at same
      next => contradiction
      next kept => cases same; exact kept
  | received context result => cases result <;> simp at same
  | closed context driver result => cases driver <;> simp at same
  | _ => contradiction

omit [Scalar Number] in
theorem countP_isClosed_le (session : Session Number) :
    session.disclosures.countP Disclosure.isClosed ≤ session.closed.length := by
  rw [Session.disclosures, Session.closed, List.countP_filterMap, List.length_filterMap_eq_countP]
  refine List.countP_mono_left fun record _ closed => ?_
  cases record with
  | closed context driver result => rfl
  | failed batch error =>
      rw [Record.disclosure?] at closed
      split at closed <;> contradiction
  | received context result =>
      cases result with
      | ok message => contradiction
      | error error =>
          rw [Record.disclosure?] at closed
          split at closed <;> contradiction
  | _ => contradiction

omit [Scalar Number] in
/-- Only one shutdown closes the driver. -/
theorem Ordered.closed_notMem
    (ordered : Ordered session)
    {earlier rest : List Disclosure}
    {told : Option Error}
    (history : session.disclosures = earlier ++ .closed told :: rest)
    (other : Option Error) : .closed other ∉ earlier := by
  intro member
  have another : 0 < earlier.countP Disclosure.isClosed :=
    List.countP_pos_iff.mpr ⟨_, member, rfl⟩
  have counted := countP_isClosed_le session
  rw [history, List.countP_append, List.countP_cons_of_pos rfl] at counted
  have once := ordered.once
  have single : session.isEnding.toNat ≤ 1 := Bool.toNat_le _
  omega

end Shutdowns

/-- The first task takes turns while nothing is answered. -/
def turns (count : Nat) : List Move := List.replicate count (.turn 0 {})

/-- A receiver takes a message and acknowledges it, and the driver is asked to take the
acknowledgment. -/
def acknowledging : List Move :=
  [.receive 0] ++ turns 2
    ++ [.turn 0 { fetched := .returned (.ok [{ body := [], ackId := some (.number 0) }]) }]
    ++ turns 5 ++ [.complete 0 true] ++ turns 2

/-- The driver fails to take the acknowledgment. -/
def ackFailing : List Move :=
  [.turn 0 { settled := .returned (.error (.text "ack down")) }] ++ turns 3

/-- Another receiver calls, and the driver fails to bring a message. -/
def receiveFailing : List Move :=
  [.receive 1] ++ turns 2 ++ [.turn 0 { fetched := .returned (.error (.text "receive down")) }]
    ++ turns 4

/-- A shutdown closes the driver without an error. -/
def shuttingDown : List Move :=
  [.shutdown 2] ++ turns 4 ++ [.turn 0 { settled := .returned (.ok ()) }]

/-- Whatever is done to a subscription, in whatever order, and whatever its driver answers: if a
batch of acknowledgments failed for good before a shutdown closed the driver without an error,
and no receiver was told a permanent error since, then the shutdown tells such a failure, the
last one. A shutdown tells no error but such a one, unless its context is cancelled. -/
theorem shutdown_tells_unreported
    [Scalar Number]
    (setup : Setup Number)
    (moves : List Move)
    {earlier rest : List Disclosure}
    {told : Option Error}
    (history : (sessionOf setup moves).disclosures = earlier ++ .closed told :: rest) :
    (∀ before error later, earlier = before ++ .failed error :: later →
      (∀ other, .told other ∉ later) →
        ∃ last, .failed last ∈ .failed error :: later ∧ last ≠ .canceled ∧ told = some last) ∧
    (∀ last, told = some last → last ≠ .canceled →
      ∃ before, earlier = before ++ [.failed last]) := by
  have reached : Reached setup (sessionOf setup moves) := reached_sessionOf setup moves
  have owing := (owing_of_reached reached).due
  rw [history, Disclosure.due_append] at owing
  have due : Disclosure.IsDue (Disclosure.owedAfter none earlier) (.closed told) := owing.2.1
  refine ⟨fun before error later split untold => ?tells, fun last answer kept => ?owed⟩
  case tells =>
    have single := (ordered_of_reached reached).closed_notMem history
    subst split
    have failures : ∀ disclosure ∈ later, ∃ other, disclosure = .failed other := by
      intro disclosure member
      cases disclosure with
      | failed other => exact ⟨other, rfl⟩
      | told other => exact absurd member (untold other)
      | closed other =>
          exact absurd (List.mem_append_right before (member.tail _)) (single other)
    obtain ⟨last, member, owed⟩ := Disclosure.exists_owedAfter_eq failures
    have disclosed : .failed last ∈ (sessionOf setup moves).disclosures := by
      rw [history]
      exact List.mem_append_left _ (List.mem_append_right _ member)
    refine ⟨last, member, ne_canceled_of_mem_disclosures disclosed, ?_⟩
    rw [Disclosure.owedAfter_append] at due
    rcases due with same | ⟨nothing, _⟩
    · exact same.trans owed
    · exact absurd (owed.symm.trans nothing) nofun
  case owed =>
    rcases due with same | ⟨_, canceled⟩
    · exact Disclosure.exists_eq_append_of_owedAfter_eq (same.symm.trans answer)
    · exact absurd (Option.some.inj (answer.symm.trans canceled)) kept

/-- A shutdown tells the failure of a batch that nobody else was told about. -/
theorem shutdown_tells_ack_down :
    let ackDown : Error := .driver .internal (.text "ack down")
    (sessionOf .exact (acknowledging ++ ackFailing ++ shuttingDown)).disclosures =
        [.failed ackDown, .closed (some ackDown)] ∧
      ∃ last, .failed last ∈ [Disclosure.failed ackDown] ∧ last ≠ .canceled ∧
        some ackDown = some last := by
  intro ackDown
  have history : (sessionOf .exact (acknowledging ++ ackFailing ++ shuttingDown)).disclosures =
      [.failed ackDown] ++ .closed (some ackDown) :: [] := by decide +kernel
  exact ⟨history,
    (shutdown_tells_unreported .exact (acknowledging ++ ackFailing ++ shuttingDown) history).1
      [] ackDown [] rfl fun _ => List.not_mem_nil⟩

/-- Receivers that are told another error make a subscription forget that a batch failed, so that
its shutdown does not tell it. -/
theorem shutdown_forgets_ack_down :
    let ackDown : Error := .driver .internal (.text "ack down")
    let receiveDown : Error := .driver .internal (.text "receive down")
    (sessionOf .exact (acknowledging ++ receiveFailing ++ ackFailing
        ++ ([.receive 3] ++ turns 1) ++ shuttingDown)).disclosures =
      [.told receiveDown, .failed ackDown, .told receiveDown, .closed none] := by
  decide +kernel

end Subscription
end PubSub
