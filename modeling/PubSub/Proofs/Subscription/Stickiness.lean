import PubSub.Proofs.Subscription.Delivery
import PubSub.Proofs.Subscription.Disclosure
import PubSub.Proofs.Subscription.Recording

/-!
# The permanent error of a subscription

A subscription keeps the first permanent error of a background receive or of a batch of
acknowledgments, until it is shut down. `sticky_step` says for every move what it makes of the
error that is kept; all else about the error follows from it, and from what is known about the
errors that background receives and handlers bring.

While an error is kept, receivers are answered with it: no message leaves the queue, and no
background receive is started. A subscription that was shut down refuses every other shutdown,
so its driver is closed at most once.
-/

namespace PubSub
namespace Subscription

variable {Number : Type}

/-! ## One move -/

/-- The permanent error that a task is about to make known. -/
@[simp] def Activity.error? : Activity → Option Error
  | .fetch (.storing _ (.error error)) => some error
  | .handler (.failing _ error) => if error = .canceled then none else some error
  | _ => none

/-- The error that is kept after a turn of a task. -/
@[simp] def Activity.stickyAfter (sticky : Option Error) : Activity → Option Error
  | .shutdown _ .begin => some .subscriptionShutdown
  | activity => sticky.or activity.error?

/-- The task whose turn a move is. -/
@[simp] def Session.actor? (session : Session Number) : Move → Option Activity
  | .turn place _ => session.activities[place]?
  | _ => none

/-- The error that is kept after a move. -/
def Session.stickyAfter (session : Session Number) (move : Move) : Option Error :=
  match session.actor? move with
  | none => session.subscription.sticky
  | some activity => activity.stickyAfter session.subscription.sticky

theorem OnAcks.sticky {Task Result : Type}
    {before : Subscription Number}
    {turn : Turn (Subscription Number) Task Result Effect}
    (touches : OnAcks before turn) : turn.state.sticky = before.sticky := by
  obtain ⟨acks, -, state⟩ := touches.state
  rw [state]

section Scalar

variable [Scalar Number]

theorem sticky_receiver
    (moment : Moment)
    (cancelled : Bool)
    (subscription : Subscription Number)
    (receiver : Receiver) :
    (receiver.step moment cancelled subscription).state.sticky = subscription.sticky := by
  cases receiver with
  | asking =>
      obtain ⟨_, _, _, _, _, same⟩ := subscription.exists_receive_eq cancelled moment.now
      rw [Receiver.step, same]
  | awaiting fetch => rfl

omit [Scalar Number] in
theorem sticky_fetch
    (moment : Moment)
    (answer : Answer (Except Fault (List Envelope)))
    (subscription : Subscription Number)
    (fetch : Fetch) :
    (fetch.step moment answer subscription).state.sticky =
      subscription.sticky.or (Activity.fetch fetch).error? := by
  cases fetch with
  | calling number calls =>
      unfold Fetch.step
      dsimp only
      split <;> simp
  | storing number result =>
      obtain ⟨estimator, ended⟩ := exists_fetchEnded_eq subscription moment.now result
      rw [Fetch.step, ended]
      cases result <;> rfl
  | waking number => simp [Fetch.step, wake]

omit [Scalar Number] in
theorem sticky_handler
    (moment : Moment)
    (answer : Answer (Except Fault Unit))
    (subscription : Subscription Number)
    (handler : Handler) :
    (handler.step moment answer subscription).state.sticky =
      subscription.sticky.or (Activity.handler handler).error? := by
  by_cases failing : ∃ batch error, handler = .failing batch error
  · obtain ⟨batch, error, rfl⟩ := failing
    by_cases canceled : error = .canceled
    · subst canceled
      simp [Handler.step, Handler.recorded]
    · have kept : error.isCanceled = false := by
        simpa [← Error.isCanceled_iff] using canceled
      cases sticky : subscription.sticky <;>
        simp [Handler.step, Handler.recorded, kept, recordAckFailure, sticky, canceled]
  · have other : ∀ batch error, handler ≠ .failing batch error := by
      simpa using failing
    rw [(onAcks_step subscription moment answer other).sticky]
    cases handler with
    | failing batch error => exact absurd rfl (other batch error)
    | _ => simp

omit [Scalar Number] in
theorem sticky_closing
    (moment : Moment)
    (cancelled : Bool)
    (answer : Answer (Except Fault Unit))
    (subscription : Subscription Number)
    (context : Nat)
    (closing : Closing) :
    (closingStep moment cancelled answer subscription closing).state.sticky =
      (Activity.shutdown context closing).stickyAfter subscription.sticky := by
  cases closing with
  | begin =>
      by_cases late : subscription.sticky = some .subscriptionShutdown <;>
        simp [closingStep, Closing.step, closable, beginShutdown, late]
  | flushing flush =>
      have touches := (onAcks_flushStep moment subscription flush).sticky
      simp only [closingStep, Closing.step, closable]
      split
      next => simp [Closing.endCalls, endBackground]
      next =>
        split
        next => simpa [Closing.endCalls, endBackground] using touches
        next => simpa using touches
        next =>
          split
          next => simpa [Closing.endCalls, endBackground] using touches
          next => simpa using touches
  | calling =>
      cases answer with
      | running => simp [closingStep, Closing.step]
      | panicked info => simp [closingStep, Closing.step]
      | returned driver =>
          obtain ⟨result, unreported, told⟩ :=
            exists_shutdownResult_eq subscription cancelled driver
          simp [closingStep, Closing.step, closable, told]

/-- A turn keeps the error that is kept, or else the one that the task brings; a shutdown that
begins puts its own in the place of any other. -/
theorem sticky_turn
    (session : Session Number)
    (finding : Finding)
    (others : List Activity)
    (activity : Activity) :
    (session.turn finding others activity).subscription.sticky =
      activity.stickyAfter session.subscription.sticky := by
  cases activity with
  | receiver context receiver =>
      have kept := sticky_receiver (session.moment finding) (session.cancelled.contains context)
        session.subscription receiver
      exact kept.trans Option.or_none.symm
  | fetch fetch =>
      exact sticky_fetch (session.moment finding) finding.fetched session.subscription fetch
  | handler handler =>
      exact sticky_handler (session.moment finding) finding.settled session.subscription handler
  | timer wakeAt =>
      have touches := onAcks_lingerStep (session.moment finding) session.subscription wakeAt
      exact touches.sticky.trans Option.or_none.symm
  | shutdown context closing =>
      exact sticky_closing (session.moment finding) (session.cancelled.contains context)
        finding.settled session.subscription context closing

omit [Scalar Number] in
theorem sticky_request (session : Session Number) (request : AckRequest) :
    (session.request request).subscription.sticky = session.subscription.sticky := by
  unfold Session.request
  split
  next => rfl
  next => split <;> rfl

/-- Every move makes of the error that is kept what its task makes of it. -/
theorem sticky_step (session : Session Number) (move : Move) :
    (session.step move).subscription.sticky = session.stickyAfter move := by
  cases move with
  | turn place finding =>
      rw [Session.step, Session.stickyAfter, Session.actor?]
      cases session.activities[place]? with
      | none => rfl
      | some activity => exact sticky_turn session finding _ activity
  | receive context | shutdown context =>
      rw [Session.step, Session.call]
      split <;> rfl
  | complete place isAck =>
      rw [Session.step, Session.complete]
      split
      next message found =>
        dsimp only
        split
        next request sent => exact sticky_request _ request
        next => rfl
      next => rfl
  | discard place =>
      rw [Session.step, Session.discard]
      split <;> rfl
  | abandon place =>
      rw [Session.step]
      split
      next => rfl
      next => split <;> rfl
  | drop =>
      rw [Session.step]
      split <;> rfl
  | cancel context | elapse nanos => rfl

end Scalar

/-! ## The errors that tasks bring -/

/-- No task brings the error that only a shutdown puts in place. -/
def Session.IsHonest (session : Session Number) : Prop :=
  ∀ activity ∈ session.activities, activity.error? ≠ some .subscriptionShutdown

theorem error?_ne_of_mem_startedBy
    {effects : List Effect}
    {activity : Activity}
    (started : activity ∈ startedBy effects) : activity.error? ≠ some .subscriptionShutdown := by
  obtain ⟨effect, -, same⟩ := List.mem_filterMap.mp started
  split at same <;> cases same <;> exact nofun

section Scalar

variable [Scalar Number]

omit [Scalar Number] in
theorem error?_ne_of_fetch_step
    {moment : Moment}
    {answer : Answer (Except Fault (List Envelope))}
    {subscription : Subscription Number}
    {fetch later : Fetch}
    (goesOn : later ∈ (fetch.step moment answer subscription).next.tasks) :
    (Activity.fetch later).error? ≠ some .subscriptionShutdown := by
  cases fetch with
  | calling number calls =>
      unfold Fetch.step at goesOn
      dsimp only at goesOn
      cases stepped : calls.step (fun _ => subscription.plan receiveOperation)
        subscription.backgroundEnded moment answer with
      | finish result =>
          rw [stepped] at goesOn
          cases result with
          | ok fetched =>
              obtain rfl := List.mem_singleton.mp goesOn
              unfold checkFetched
              split <;> exact nofun
          | error error =>
              obtain rfl := List.mem_singleton.mp goesOn
              have own := Retry.Group.ne_subscriptionShutdown_of_step_eq stepped
              simpa using own
      | crash info =>
          rw [stepped] at goesOn
          contradiction
      | _ =>
          rw [stepped] at goesOn
          obtain rfl := List.mem_singleton.mp goesOn
          exact nofun
  | storing number result =>
      obtain rfl := List.mem_singleton.mp goesOn
      exact nofun
  | waking number => contradiction

omit [Scalar Number] in
theorem error?_ne_of_handler_step
    {moment : Moment}
    {answer : Answer (Except Fault Unit)}
    {subscription : Subscription Number}
    {handler later : Handler}
    (goesOn : later ∈ (handler.step moment answer subscription).next.tasks) :
    (Activity.handler later).error? ≠ some .subscriptionShutdown := by
  cases handler with
  | announcing batch =>
      obtain rfl := List.mem_singleton.mp goesOn
      exact nofun
  | calling batch calls =>
      unfold Handler.step at goesOn
      dsimp only at goesOn
      cases stepped : calls.step (fun call => subscription.plan call.operation)
        subscription.backgroundEnded moment answer with
      | finish result =>
          rw [stepped] at goesOn
          cases result with
          | ok value =>
              obtain rfl := List.mem_singleton.mp goesOn
              exact nofun
          | error error =>
              obtain rfl := List.mem_singleton.mp goesOn
              have own := Retry.Group.ne_subscriptionShutdown_of_step_eq stepped
              rw [Activity.error?]
              split
              next => exact nofun
              next => simpa using own
      | _ =>
          rw [stepped] at goesOn
          obtain rfl := List.mem_singleton.mp goesOn
          exact nofun
  | failing batch error =>
      obtain rfl := List.mem_singleton.mp goesOn
      exact nofun
  | answering left result =>
      unfold Handler.step Handler.answered at goesOn
      dsimp only at goesOn
      split at goesOn
      next => contradiction
      next acks present =>
        cases left with
        | cons entry rest =>
            obtain rfl := List.mem_singleton.mp goesOn
            exact nofun
        | nil =>
            unfold Batcher.handOver at goesOn
            dsimp only at goesOn
            split at goesOn
            next =>
              obtain rfl := List.mem_singleton.mp goesOn
              exact nofun
            next => contradiction

/-- No move makes a task bring the error of a shutdown. -/
theorem Session.IsHonest.step
    {session : Session Number}
    (honest : session.IsHonest)
    (move : Move) : (session.step move).IsHonest := by
  intro activity member
  cases arises_of_mem_step member with
  | stayed earlier => exact honest activity earlier
  | called fresh => cases fresh <;> exact nofun
  | started new =>
      obtain ⟨effects, new, -⟩ := new
      exact error?_ne_of_mem_startedBy new
  | wentOn taken found goesOn =>
      cases goesOn with
      | fetch later => exact error?_ne_of_fetch_step later
      | handler later => exact error?_ne_of_handler_step later
      | receiver | timer | shutdown => exact nofun

theorem isHonest_sessionOf (setup : Setup Number) (moves : List Move) :
    (sessionOf setup moves).IsHonest :=
  sessionOf_induction (by simp [Session.IsHonest, Setup.session])
    (fun _ move honest => honest.step move) moves

end Scalar

/-! ## The first failure -/

/-- A permanent error that was made known. -/
@[simp] def Record.failure? : Record → Option Error
  | .fetched _ (.error error) => if error = .canceled then none else some error
  | .failed _ error => if error = .canceled then none else some error
  | _ => none

/-- The permanent errors that were made known, oldest first. -/
@[simp] def Session.failures (session : Session Number) : List Error :=
  session.records.filterMap Record.failure?

/-- The error that is kept is the first that was made known, or that of a shutdown. -/
structure Blamed (session : Session Number) : Prop where
  untroubled : session.subscription.sticky = none → session.failures = []
  first : ∀ error, session.subscription.sticky = some error → error ≠ .canceled →
    error = .subscriptionShutdown ∨ session.failures.head? = some error

theorem failure?_of_isMinor (record : Record) (minor : record.isMinor = true) :
    record.failure? = none := by
  cases record <;> simp_all

namespace Blamed

attribute [local simp] List.filterMap_cons

variable {before after : Session Number}

/-- No error was made known. -/
theorem congr
    (blamed : Blamed before)
    (sticky : after.subscription.sticky = before.subscription.sticky)
    (failures : after.failures = before.failures) : Blamed after where
  untroubled quiet := by
    rw [failures]
    exact blamed.untroubled (sticky ▸ quiet)
  first error kept := by
    rw [failures]
    exact blamed.first error (sticky ▸ kept)

/-- An error was made known. It is kept if it is the first one. -/
theorem troubled
    (blamed : Blamed before)
    {error : Error}
    (sticky : after.subscription.sticky = before.subscription.sticky.or (some error))
    (failures : after.failures = before.failures ++ if error = .canceled then [] else [error]) :
    Blamed after where
  untroubled quiet := by
    rw [sticky] at quiet
    exact nomatch (Option.or_eq_none_iff.mp quiet).2
  first other kept permanent := by
    rw [sticky] at kept
    rw [failures]
    cases earlier : before.subscription.sticky with
    | none =>
        rw [earlier, Option.none_or, Option.some.injEq] at kept
        subst kept
        rw [blamed.untroubled earlier, if_neg permanent]
        exact .inr rfl
    | some found =>
        rw [earlier, Option.some_or, Option.some.injEq] at kept
        subst kept
        refine (blamed.first found earlier permanent).imp_right fun head => ?_
        rw [List.head?_append, head, Option.some_or]

variable [Scalar Number]

theorem create (setup : Setup Number) : Blamed setup.session where
  untroubled _ := rfl
  first _ := nofun

theorem change (change : Change before after) (blamed : Blamed before) : Blamed after := by
  cases change with
  | @stored number result others split estimator =>
      cases result with
      | ok envelopes => exact blamed.congr Option.or_none (by simp)
      | error error =>
          refine blamed.troubled rfl ?_
          by_cases canceled : error = .canceled <;> simp [canceled]
  | @recorded batch error others split kept =>
      exact blamed.troubled rfl (by simp [kept])
  | began => exact ⟨nofun, fun error kept _ => .inl (Option.some.inj kept).symm⟩
  | looked split same minor =>
      exact blamed.congr rfl (filterMap_append_of_isMinor failure?_of_isMinor _ minor)
  | acked split gone_acking new_acking present minor =>
      exact blamed.congr rfl (filterMap_append_of_isMinor failure?_of_isMinor _ minor)
  | prefetched | delivered | told | gaveUp | returned | crashed | ignored | closed | refused
  | ended => exact blamed.congr rfl (by simp)
  | waited | foundEmpty | resumed | gathered | lost | woke | flushed | arrived | left
  | reordered | cancelled | elapsed | dropped => exact blamed.congr rfl rfl

end Blamed

/-! ## From the first error on -/

/-- An error that is kept stays until a shutdown puts its own in its place. While one is kept, no
message leaves the queue and no background receive is started. -/
structure Hardens (before after : Session Number) : Prop where
  sticky : ∀ error, before.subscription.sticky = some error →
    after.subscription.sticky = some error ∨
      after.subscription.sticky = some .subscriptionShutdown
  popped : before.subscription.sticky ≠ none → after.popped = before.popped
  started : before.subscription.sticky ≠ none → after.started = before.started

namespace Hardens

attribute [local simp] List.filterMap_cons

variable {before after last : Session Number}

theorem refl (session : Session Number) : Hardens session session :=
  ⟨fun _ => .inl, fun _ => rfl, fun _ => rfl⟩

theorem troubled
    (hardens : Hardens before after)
    (kept : before.subscription.sticky ≠ none) : after.subscription.sticky ≠ none := by
  obtain ⟨error, found⟩ := Option.ne_none_iff_exists'.mp kept
  rcases hardens.sticky error found with same | ending
  · rw [same]
    exact nofun
  · rw [ending]
    exact nofun

theorem trans (first : Hardens before after) (second : Hardens after last) :
    Hardens before last where
  sticky error kept := by
    rcases first.sticky error kept with same | ending
    · exact second.sticky error same
    · exact .inr ((second.sticky _ ending).elim id id)
  popped kept := (second.popped (first.troubled kept)).trans (first.popped kept)
  started kept := (second.started (first.troubled kept)).trans (first.started kept)

/-- Nothing has happened that matters. -/
theorem congr
    (sticky : after.subscription.sticky = before.subscription.sticky)
    (popped : after.popped = before.popped)
    (started : after.started = before.started) : Hardens before after :=
  ⟨fun _ kept => .inl (sticky.trans kept), fun _ => popped, fun _ => started⟩

/-- An error was made known. -/
theorem known
    {error : Option Error}
    (sticky : after.subscription.sticky = before.subscription.sticky.or error)
    (popped : after.popped = before.popped)
    (started : after.started = before.started) : Hardens before after where
  sticky found kept := by
    rw [sticky, kept]
    exact .inl rfl
  popped _ := popped
  started _ := started

variable [Scalar Number]

theorem of_change (change : Change before after) : Hardens before after := by
  cases change with
  | prefetched idle sized untroubled =>
      exact ⟨fun _ => .inl, fun kept => absurd untroubled kept, fun kept => absurd untroubled kept⟩
  | delivered split untroubled queued =>
      exact ⟨fun _ => .inl, fun kept => absurd untroubled kept, fun kept => absurd untroubled kept⟩
  | stored split => exact known rfl (by simp) (by simp)
  | recorded split => exact known rfl (by simp) (by simp)
  | began => exact ⟨fun _ _ => .inr rfl, fun _ => rfl, fun _ => rfl⟩
  | looked split same minor | acked split gone_acking new_acking present minor =>
      exact congr rfl (filterMap_append_of_isMinor popped?_of_isMinor _ minor)
        (filterMap_append_of_isMinor started?_of_isMinor _ minor)
  | told | gaveUp | returned | crashed | ignored | closed | refused | ended =>
      exact congr rfl (by simp) (by simp)
  | waited | foundEmpty | resumed | gathered | lost | woke | flushed | arrived | left
  | reordered | cancelled | elapsed | dropped => exact congr rfl rfl rfl

theorem of_changes (changes : Changes before after) : Hardens before after := by
  induction changes with
  | refl => exact refl before
  | tail _ last hypothesis => exact hypothesis.trans (of_change last)

end Hardens

/-! ## One shutdown closes the driver -/

/-- A call that closes the driver. -/
@[simp] def Record.close? : Record → Option Effect
  | .asked .close => some .close
  | _ => none

@[simp] def Activity.flushing? : Activity → Option Nat
  | .shutdown context (.flushing _) => some context
  | _ => none

namespace Session

variable (session : Session Number)

/-- The calls that close the driver. -/
@[simp] def closes : List Effect := session.records.filterMap Record.close?

/-- The shutdowns that wait for the acknowledgments. -/
@[simp] def flushing : List Nat := session.activities.filterMap Activity.flushing?

end Session

/-- The driver is closed once, and not before the shutdown that is to close it has waited. -/
def ClosesOnce (session : Session Number) : Prop :=
  session.flushing.length + session.closes.length ≤ session.isEnding.toNat

theorem close?_of_isMinor (record : Record) (minor : record.isMinor = true) :
    record.close? = none := by
  cases record with
  | asked effect => cases effect <;> simp_all
  | _ => rfl

theorem flushing?_of_isAcking (activity : Activity) (acking : activity.IsAcking) :
    activity.flushing? = none := by
  cases acking <;> rfl

namespace ClosesOnce

attribute [local simp] List.filterMap_cons

variable {before after : Session Number}

/-- No shutdown has begun. -/
theorem mono
    (once : ClosesOnce before)
    (ending : before.isEnding = true → after.isEnding = true)
    (fewer : after.flushing.length + after.closes.length ≤
      before.flushing.length + before.closes.length) : ClosesOnce after := by
  refine Nat.le_trans fewer (Nat.le_trans once ?_)
  cases earlier : before.isEnding with
  | false => exact Nat.zero_le _
  | true => exact Nat.le_of_eq (congrArg Bool.toNat (ending earlier).symm)

theorem perm
    {activities : List Activity}
    (same : before.activities.Perm activities)
    (once : ClosesOnce before) : ClosesOnce { before with activities } :=
  once.mono id (Nat.le_of_eq (congrArg (· + _) (same.symm.filterMap _).length_eq))

variable [Scalar Number]

theorem create (setup : Setup Number) : ClosesOnce setup.session := Nat.zero_le _

theorem change (change : Change before after) (once : ClosesOnce before) : ClosesOnce after := by
  have lasting : before.isEnding = true → after.isEnding = true := by
    intro ending
    rw [Session.isEnding, decide_eq_true_eq] at ending ⊢
    exact ((Hardens.of_change change).sticky _ ending).elim id id
  cases change with
  | @began context others split first =>
      have sorted := once.perm split
      have lasts : Session.isEnding { before with
        activities := .shutdown context .begin :: others } = false := decide_eq_false first
      rw [ClosesOnce, lasts, Bool.toNat_false] at sorted
      have begun : Session.isEnding { before with
        subscription := { before.subscription with sticky := some .subscriptionShutdown }
        activities := .shutdown context (.flushing .starting) :: others } = true :=
        decide_eq_true rfl
      rw [ClosesOnce, begun, Bool.toNat_true]
      exact Nat.le_trans (Nat.le_of_eq (Nat.succ_add ..)) (Nat.succ_le_succ sorted)
  | ended split => exact (once.perm split).mono lasting (by simp; omega)
  | looked split same minor =>
      have closes := filterMap_append_of_isMinor close?_of_isMinor before.records minor
      exact (once.perm split).mono lasting (Nat.le_of_eq (congrArg (_ + List.length ·) closes))
  | @acked acks messages gone new others happened split gone_acking new_acking present minor =>
      have flushing :=
        filterMap_append_of_isAcking flushing?_of_isAcking gone_acking new_acking others
      have closes := filterMap_append_of_isMinor close?_of_isMinor before.records minor
      exact (once.perm split).mono lasting
        (Nat.le_of_eq (congrArg₂ (List.length · + List.length ·) flushing closes))
  | delivered split | told split | gaveUp split | waited split | resumed split | returned split
  | gathered split | lost split | crashed split | stored split | woke split | recorded split
  | ignored split | refused split | flushed split | closed split =>
      exact (once.perm split).mono lasting (by simp)
  | prefetched | foundEmpty | cancelled | elapsed | dropped =>
      exact once.mono lasting (by simp)
  | arrived fresh => cases fresh <;> exact once.mono lasting (by simp)
  | left split =>
      refine (once.perm split).mono lasting ?_
      exact Nat.add_le_add_right ((List.sublist_cons_self ..).filterMap _).length_le _
  | reordered same => exact once.perm same

end ClosesOnce

/-! ## Turns while an error is kept -/

section Turns

variable [Scalar Number] {setup : Setup Number} {session : Session Number}

theorem blamed_of_reached (reached : Reached setup session) : Blamed session :=
  reached.preserve .change (.create setup)

theorem closesOnce_of_reached (reached : Reached setup session) : ClosesOnce session :=
  reached.preserve .change (.create setup)

/-- A receiver that asks while an error is kept is answered with it, and does nothing else but to
have been told. -/
theorem turn_asking_of_sticky
    {context : Nat}
    {error : Error}
    (kept : session.subscription.sticky = some error)
    (finding : Finding)
    (others : List Activity) :
    session.turn finding others (.receiver context .asking) =
      { session with
        subscription := { session.subscription with unreported := none }
        activities := others
        records := session.records ++ [.received context (.error error)] } := by
  simp [Session.turn, Session.resume, Receiver.step, receive, kept, fetchEffects, afterReceive,
    startedBy, gotten, Next.tasks, Receiver.records]

/-- A shutdown that begins after another one has begun is refused, and does nothing else. -/
theorem turn_begin_of_sticky
    {context : Nat}
    (ending : session.subscription.sticky = some .subscriptionShutdown)
    (finding : Finding)
    (others : List Activity) :
    session.turn finding others (.shutdown context .begin) =
      { session with
        activities := others
        records := session.records ++ [.refused context .subscriptionShutdown] } := by
  simp [Session.turn, Session.resume, closingStep, Closing.step, closable, beginShutdown, ending,
    startedBy, Next.tasks, closingRecords]

end Turns

/-- As long as a subscription is held, it keeps the first permanent error that was made known, or
that of a shutdown, and every move changes it as `stickyAfter` says. While an error is kept,
receivers are answered with it, no message leaves the queue and no background receive is started. -/
theorem sticky_eq_first_failure_or_shutdown
    [Scalar Number]
    (setup : Setup Number)
    (moves : List Move) :
    let session := sessionOf setup moves
    (session.dropped = false →
      session.subscription.sticky ≠ some .canceled ∧
      (session.subscription.sticky = none → session.failures = []) ∧
      ∀ error, session.subscription.sticky = some error →
        error = .subscriptionShutdown ∨ session.failures.head? = some error) ∧
    (∀ move, (session.step move).subscription.sticky = session.stickyAfter move) ∧
    (∀ activity ∈ session.activities, activity.error? ≠ some .subscriptionShutdown) ∧
    (∀ (later : List Move) (error : Error), session.subscription.sticky = some error →
      ((session.run later).subscription.sticky = some error ∨
        (session.run later).subscription.sticky = some .subscriptionShutdown) ∧
      (session.run later).popped = session.popped ∧
      (session.run later).started = session.started) ∧
    (∀ place context finding error,
      session.activities[place]? = some (.receiver context .asking) →
      session.subscription.sticky = some error →
        session.step (.turn place finding) =
          { session with
            subscription := { session.subscription with unreported := none }
            activities := session.activities.eraseIdx place
            records := session.records ++ [.received context (.error error)] }) ∧
    (∀ place context finding,
      session.activities[place]? = some (.shutdown context .begin) →
      session.subscription.sticky = some .subscriptionShutdown →
        session.step (.turn place finding) =
          { session with
            activities := session.activities.eraseIdx place
            records := session.records ++ [.refused context .subscriptionShutdown] }) ∧
    session.closes.length ≤ 1 := by
  intro session
  have reached : Reached setup session := reached_sessionOf setup moves
  have blamed := blamed_of_reached reached
  refine ⟨fun held => ?standing, sticky_step session, isHonest_sessionOf setup moves,
    fun later error kept => ?lasting, fun place context finding error found kept => ?asking,
    fun place context finding found ending => ?refused, ?once⟩
  case standing =>
    have permanent : session.subscription.sticky ≠ some .canceled := fun canceled =>
      Bool.false_ne_true (held.symm.trans ((ordered_of_reached reached).sticky canceled))
    refine ⟨permanent, blamed.untroubled, fun error kept => blamed.first error kept ?_⟩
    rintro rfl
    exact permanent kept
  case lasting =>
    have hardens := Hardens.of_changes (changes_run session later)
    have troubled : session.subscription.sticky ≠ none := by
      rw [kept]
      exact nofun
    exact ⟨hardens.sticky error kept, hardens.popped troubled, hardens.started troubled⟩
  case asking =>
    rw [Session.step, found]
    exact turn_asking_of_sticky kept finding _
  case refused =>
    rw [Session.step, found]
    exact turn_begin_of_sticky ending finding _
  case once =>
    have once : session.flushing.length + session.closes.length ≤ session.isEnding.toNat :=
      closesOnce_of_reached reached
    have single : session.isEnding.toNat ≤ 1 := Bool.toNat_le _
    omega

end Subscription
end PubSub
