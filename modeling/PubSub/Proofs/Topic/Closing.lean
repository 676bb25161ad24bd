import PubSub.Proofs.Topic.Failing

/-!
# The order in which a topic is shut down

The shutdown that begins first waits until the batcher is idle, then ends the context of the driver
calls and closes the driver. An idle batcher that is shut down stays idle, so after that no handler
is at work, and nothing is announced but the end of the topic. A shutdown whose context is cancelled
does not wait; but once the context of the driver calls has ended, no driver call is made.
-/

namespace PubSub
namespace Topic

attribute [local simp] List.filterMap_cons

/-! ## Driver calls -/

/-- Under an ended context, no move makes a driver call, and the context stays ended. -/
theorem calls_of_change
    {before after : Session}
    (change : Change before after)
    (ended : before.topic.backgroundEnded = true) :
    after.calls = before.calls ∧ after.topic.backgroundEnded = true := by
  cases change with
  | sent split live => exact absurd (ended.symm.trans live) nofun
  | ended | skipped | dropped => exact ⟨by simp, rfl⟩
  | _ => exact ⟨by simp, ended⟩

theorem calls_run
    {session : Session}
    (ended : session.topic.backgroundEnded = true)
    (later : List Move) : (session.run later).calls = session.calls := by
  induction later generalizing session with
  | nil => rfl
  | cons move rest hypothesis =>
      obtain ⟨same, still⟩ := calls_of_change (change_step session move) ended
      exact (hypothesis still).trans same

/-! ## Events -/

/-- Without handlers, nothing is announced but the end of the topic. -/
theorem published_of_change
    {before after : Session}
    (change : Change before after)
    (nobody : ∀ handler, .handler handler ∉ before.activities) :
    ∃ events, after.published = before.published ++ events ∧
      ∀ event ∈ events, event.kind = .topicShutdown := by
  have noHandler {handler : Handler} {others : List Activity}
      (split : before.activities.Perm (.handler handler :: others)) : False :=
    nobody handler (split.mem_iff.mpr (.head _))
  cases change with
  | announced split | sent split | retried split | resumed split | succeeded split | failed split
  | aborted split | overruled split | crashed split => exact (noHandler split).elim
  | @closed context driver result => exact ⟨[shutdownEvent result], by simp, by simp⟩
  | _ => exact ⟨[], by simp, by simp⟩

/-- A quiet batcher has no handlers. -/
theorem nobody_of_quiet
    {session : Session}
    (tallied : Batcher.Tallied session.batching)
    (quiet : Batcher.Quiet session.batching)
    (handler : Handler) : .handler handler ∉ session.activities := by
  intro member
  have shown : .handler handler.handling ∈ session.batching.activities :=
    List.mem_filterMap.mpr ⟨_, member, rfl⟩
  have none := tallied.handlers.symm.trans quiet.handlers
  exact absurd (List.countP_eq_zero.mp none _ shown) (by simp)

/-- Once the batcher is quiet, nothing is announced but the end of the topic. -/
theorem published_run
    (setup : Setup)
    (moves : List Move)
    (quiet : Batcher.Quiet (sessionOf setup moves).batching)
    (later : List Move) :
    ∃ events, ((sessionOf setup moves).run later).published =
        (sessionOf setup moves).published ++ events ∧
      ∀ event ∈ events, event.kind = .topicShutdown := by
  induction later generalizing moves with
  | nil => exact ⟨[], (List.append_nil _).symm, by simp⟩
  | cons move rest hypothesis =>
      have reached := reached_batching setup moves
      have still := quiet.of_changes reached (changes_batching_step _ move)
      obtain ⟨now, announced, nowKind⟩ := published_of_change (change_step _ move)
        (nobody_of_quiet (Batcher.tallied_of_reached reached) quiet)
      rw [← sessionOf_append_singleton] at still announced
      obtain ⟨afterwards, same, laterKind⟩ := hypothesis (moves ++ [move]) still
      refine ⟨now ++ afterwards, ?_, fun event member => ?_⟩
      · rw [announced, List.append_assoc, sessionOf_append_singleton] at same
        exact same
      · exact (List.mem_append.mp member).elim (nowKind event) (laterKind event)

/-! ## When the driver is closed -/

/-- A flush that finds the batcher idle leaves it so for ever. -/
theorem quiet_of_idle
    {session : Session}
    (noticed : Batcher.Noticed session.batching)
    {context seen : Nat}
    (flushing : .shutdown context (.flushing (.looking seen)) ∈ session.activities)
    (idle : session.topic.batcher.isIdle = true) : Batcher.Quiet session.batching := by
  have shown : .flush (.looking seen) ∈ session.batching.activities :=
    List.mem_filterMap.mpr ⟨_, flushing, rfl⟩
  obtain ⟨handlers, pending⟩ := Batcher.isIdle_iff.mp idle
  exact ⟨(noticed _ shown).1, pending, handlers⟩

/-- The driver is closed by the shutdown that flushes, which has found the batcher idle unless its
context is cancelled. -/
theorem exists_flushing_of_closes
    {before after : Session}
    (change : Change before after)
    (noticed : Batcher.Noticed before.batching)
    (closes : after.closes ≠ before.closes) :
    ∃ context flush, .shutdown context (.flushing flush) ∈ before.activities ∧
      after.published = before.published ∧
      (context ∉ before.cancelled → Batcher.Quiet before.batching) := by
  cases change with
  | @ended context flush others happened split begun reason =>
      have member := split.mem_iff.mpr (.head _)
      refine ⟨context, flush, member, by simp, fun live => ?_⟩
      cases reason with
      | idle idle => exact quiet_of_idle noticed member idle
      | gaveUp cancelled => contradiction
  | @skipped context others split cancelled =>
      exact ⟨context, .starting, split.mem_iff.mpr (.head _), by simp, fun live =>
        absurd cancelled live⟩
  | _ => exact absurd (by simp) closes

section Runs

variable (setup : Setup) (moves : List Move)

/-- When the driver is closed by a shutdown whose context is not cancelled, every message that was
accepted was taken back, or was in a batch whose handler has come to an answer; and nothing but the
end of the topic is announced, which was not announced before. -/
theorem flushed_of_closes
    {move : Move}
    (closes : ((sessionOf setup moves).step move).closes ≠ (sessionOf setup moves).closes) :
    let session := sessionOf setup moves
    ∃ context flush, .shutdown context (.flushing flush) ∈ session.activities ∧
      session.began = [context] ∧
      (context ∉ session.cancelled →
        (∀ entry ∈ session.batching.accepted, entry.id ∈ session.batching.withdrawn ∨
          ∃ ending ∈ session.batching.ended, entry ∈ ending.1) ∧
        (∀ event ∈ session.published, event.kind ≠ .topicShutdown) ∧
        ∀ later, ∃ events,
          ((session.step move).run later).published = session.published ++ events ∧
            ∀ event ∈ events, event.kind = .topicShutdown) := by
  intro session
  have reached : Batcher.Reached setup.batching session.batching := reached_batching setup moves
  have tallied := Batcher.tallied_of_reached reached
  have shutting : Shutting session := shutting_sessionOf setup moves
  obtain ⟨context, flush, flushing, published, idle⟩ := exists_flushing_of_closes
    (change_step session move) (Batcher.noticed_of_reached reached) closes
  refine ⟨context, flush, flushing, shutting.began_eq flushing nofun, fun live =>
    ⟨fun entry accepted => ?settled, fun event member farewell => ?first, fun later => ?quiet⟩⟩
  case settled =>
    exact (idle live).settled tallied (Batcher.conserved_of_reached reached) accepted
  case first =>
    have once := shutting.once
    have announced := shutting.announced
    have isFlushing : 0 < session.activities.countP Activity.isFlushing :=
      List.countP_pos_iff.mpr ⟨_, flushing, rfl⟩
    rw [shutting.began_eq flushing nofun, List.length_singleton] at once
    obtain ⟨record, recorded, shown⟩ := List.mem_filterMap.mp member
    have isFarewell : 0 < session.farewells := by
      refine List.countP_pos_iff.mpr ⟨record, recorded, ?_⟩
      cases record with
      | published other =>
          cases shown
          exact beq_iff_eq.mpr farewell
      | _ => contradiction
    omega
  case quiet =>
    have still := (idle live).of_changes reached (changes_batching_step session move)
    rw [← sessionOf_append_singleton] at still
    have announced := published_run setup (moves ++ [move]) still later
    rwa [sessionOf_append_singleton, published] at announced

end Runs

/-! ## Shutdowns that come too late -/

section Shutdowns

variable {session : Session} {place context : Nat}

/-- The first shutdown begins when it is looked at. -/
theorem step_begin
    (found : session.activities[place]? = some (.shutdown context .begin))
    (lasting : session.isEnding = false)
    (finding : Finding) :
    session.step (.turn place finding) =
      { session with
        topic := { session.topic with sticky := some .topicShutdown }
        activities := .shutdown context (.flushing .starting) :: session.activities.eraseIdx place
        records := session.records ++ [.began context] } := by
  have first : session.topic.sticky ≠ some .topicShutdown := of_decide_eq_false lasting
  simp [Session.step, found, Session.turn, Session.resume, closingStep, Closing.step, closable,
    beginShutdown, first, flushRecords, closingRecords, Next.tasks]

/-- Every other shutdown is refused. -/
theorem step_begin_of_isEnding
    (found : session.activities[place]? = some (.shutdown context .begin))
    (ending : session.isEnding = true)
    (finding : Finding) :
    session.step (.turn place finding) =
      { session with
        activities := session.activities.eraseIdx place
        records := session.records ++ [.refused context .topicShutdown] } := by
  have late : session.topic.sticky = some .topicShutdown := of_decide_eq_true ending
  simp [Session.step, found, Session.turn, Session.resume, closingStep, Closing.step, closable,
    beginShutdown, late, flushRecords, closingRecords, Next.tasks]

theorem Shutting.isEnding_eq_false_iff (shutting : Shutting session) :
    session.isEnding = false ↔ session.began = [] := by
  rw [← List.length_eq_zero_iff, shutting.began]
  cases session.isEnding <;> simp

theorem Shutting.isEnding_iff (shutting : Shutting session) :
    session.isEnding = true ↔ session.began ≠ [] := by
  rw [← Bool.not_eq_false, shutting.isEnding_eq_false_iff]

end Shutdowns

/-- Only the first shutdown begins; every other is refused in its first turn, as is every call that
begins later. The driver is closed once at most, by the first shutdown, after everything accepted
was handled unless its context is cancelled; from then on only the end of the topic is announced. -/
theorem driver_closed_after_flush (setup : Setup) (moves : List Move) :
    let session := sessionOf setup moves
    session.began.length ≤ 1 ∧
      (∀ place context finding, session.activities[place]? = some (.shutdown context .begin) →
        (session.began = [] → (session.step (.turn place finding)).began = [context]) ∧
        (session.began ≠ [] → session.step (.turn place finding) =
          { session with
            activities := session.activities.eraseIdx place
            records := session.records ++ [.refused context .topicShutdown] })) ∧
      (session.began ≠ [] → ∀ number, session.Unbegun number → ∀ later,
        let after := session.run later
        ¬ after.Asked number ∧
          (∀ other id, (other, id) ∈ after.entered → other.number ≠ number) ∧
          (∀ other told, (other, told) ∈ after.rejected → other.number = number →
            told = .topicShutdown) ∧
          ∀ place other sender finding,
            after.activities[place]? = some (.sender other sender) → other.number = number →
            after.step (.turn place finding) =
              { after with
                activities := after.activities.eraseIdx place
                records := after.records ++ [.rejected other .topicShutdown] }) ∧
      session.closes ≤ 1 ∧
      (∀ move, (session.step move).closes ≠ session.closes →
        ∃ context flush, .shutdown context (.flushing flush) ∈ session.activities ∧
          session.began = [context] ∧
          (context ∉ session.cancelled →
            (∀ entry ∈ session.batching.accepted, entry.id ∈ session.batching.withdrawn ∨
              ∃ ending ∈ session.batching.ended, entry ∈ ending.1) ∧
            (∀ event ∈ session.published, event.kind ≠ .topicShutdown) ∧
            ∀ later, ∃ events,
              ((session.step move).run later).published = session.published ++ events ∧
                ∀ event ∈ events, event.kind = .topicShutdown)) ∧
      (session.topic.backgroundEnded = true →
        ∀ later, (session.run later).calls = session.calls) := by
  intro session
  have shutting : Shutting session := shutting_sessionOf setup moves
  have single : session.began.length ≤ 1 := by
    rw [shutting.began]
    exact Bool.toNat_le _
  refine ⟨single, fun place context finding found => ⟨fun none => ?first, fun begun => ?late⟩,
    fun begun number unbegun later => ?calls, Nat.le_trans ?_ single,
    fun move closes => flushed_of_closes setup moves closes, fun ended => calls_run ended⟩
  case first =>
    rw [step_begin found (shutting.isEnding_eq_false_iff.mpr none)]
    simp only [Session.began] at none
    simp [none]
  case late => exact step_begin_of_isEnding found (shutting.isEnding_iff.mpr begun) finding
  case calls =>
    have sticky : session.topic.sticky = some .topicShutdown :=
      of_decide_eq_true (shutting.isEnding_iff.mpr begun)
    obtain ⟨entered, rejected, answered⟩ :=
      answered_of_unbegun setup moves (fun _ => ⟨_, sticky⟩) unbegun later
    refine ⟨?_, entered, fun other told member same => ?_,
      fun place other sender finding found same => ?_⟩
    · rintro ⟨call, -, entry, -, other, isEntered, same⟩
      exact entered other entry.id isEntered same
    · rcases rejected other told member same with known | known
      · exact Option.some.inj (known.symm.trans sticky)
      · exact known
    · obtain ⟨kept, known, step⟩ := answered place other sender found same
      have still : (session.run later).topic.sticky = some .topicShutdown :=
        (sticky_run session (.inl sticky) later).elim id id
      rw [step finding, Option.some.inj (known.symm.trans still)]
  exact Nat.le_trans (Nat.le_add_left ..) shutting.once

/-- A message that waits for company is sent when the topic is shut down. -/
example :
    let session := sessionOf { batching := { minSize := 2 } }
      [.send 0 { body := [1] }, .turn 0 {}, .turn 0 {}, .turn 0 {}, .shutdown 0, .turn 0 {},
        .turn 0 {}, .turn 0 {}, .turn 0 {}, .turn 0 { settled := .returned (.ok ()) }, .turn 0 {},
        .turn 0 {}, .turn 0 {}, .turn 0 {}, .turn 0 { settled := .returned (.ok ()) }]
    session.closes = 1 ∧ session.calls.length = 1 ∧
      session.published.map Event.kind = [.batchDispatched, .topicShutdown] := by
  decide +kernel

end Topic
end PubSub
