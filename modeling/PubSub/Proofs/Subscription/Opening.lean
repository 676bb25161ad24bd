import PubSub.Proofs.Subscription.Measuring
import PubSub.Proofs.Subscription.Stocking

/-!
# When the measured window is opened

A window is opened when a size is chosen while messages are queued, and by messages that arrive
while there is none. `windowOf` reads off what has happened when that was, and what has happened
since then. The estimator agrees with it: whenever messages are queued there is a window, and what
is counted are the deliveries since it was opened. A window is closed after it was opened, and while
there is none nothing is counted.

With batches of single messages choosing a size makes no difference, so the first window is never
replaced.
-/

namespace PubSub
namespace Subscription

variable {Number : Type}

/-! ## What has happened tells when the window was opened -/

/-- What has happened tells how many messages are queued, and which window is open. -/
structure Window where
  queued : Nat := 0
  /-- When the window was opened, and what has happened since then. -/
  opened : Option (Nat × List (Nat × Record)) := none

namespace Window

/-- What has happened since the window was opened, if there is one. -/
def since (window : Window) : List (Nat × Record) := window.opened.elim [] Prod.snd

/-- A size that is chosen ends the window, and it opens another one if messages are queued. Messages
that arrive open a window unless there is one. -/
def after (window : Window) (entry : Nat × Record) : Window where
  queued := window.queued + entry.2.arrived.length - entry.2.popped?.toList.length
  opened :=
    if entry.2.started? = none then
      match window.opened with
      | some (start, since) => some (start, since ++ [entry])
      | none => if entry.2.arrived = [] then none else some (entry.1, [])
    else if window.queued = 0 then none
    else some (entry.1, [])

/-- Whether a record opens a window: a size is chosen while messages are queued, or messages arrive
while there is no window. -/
def IsOpenedBy (window : Window) (record : Record) : Prop :=
  record.started? ≠ none ∧ window.queued ≠ 0 ∨ window.opened = none ∧ record.arrived ≠ []

theorem started?_of_arrived {record : Record} (arrived : record.arrived ≠ []) :
    record.started? = none := by
  cases record with
  | fetched number result => rfl
  | _ => exact absurd rfl arrived

section

variable {window : Window} {entry : Nat × Record} {start : Nat} {earlier : List (Nat × Record)}

theorem opened_after_of_opened
    (opened : window.opened = some (start, earlier))
    (kept : entry.2.started? = none) :
    (window.after entry).opened = some (start, earlier ++ [entry]) := by
  rw [after, if_pos kept, opened]

theorem opened_after_of_isOpenedBy (opens : window.IsOpenedBy entry.2) :
    (window.after entry).opened = some (entry.1, []) := by
  rcases opens with ⟨started, queued⟩ | ⟨unopened, arrived⟩
  · rw [after, if_neg started, if_neg queued]
  · rw [after, if_pos (started?_of_arrived arrived), unopened]
    exact if_neg arrived

theorem opened_after_of_unopened
    (unopened : window.opened = none)
    (kept : entry.2.started? = none)
    (nothing : entry.2.arrived = []) : (window.after entry).opened = none := by
  rw [after, if_pos kept, unopened]
  exact if_pos nothing

/-- A window stays open or is opened, or there is none afterwards. -/
theorem opened_after_cases (window : Window) (entry : Nat × Record) :
    (∃ start earlier, window.opened = some (start, earlier) ∧ entry.2.started? = none) ∨
      window.IsOpenedBy entry.2 ∨ (window.after entry).opened = none := by
  by_cases kept : entry.2.started? = none
  · cases opened : window.opened with
    | some opening => exact .inl ⟨_, _, rfl, kept⟩
    | none =>
        by_cases nothing : entry.2.arrived = []
        · exact .inr (.inr (opened_after_of_unopened opened kept nothing))
        · exact .inr (.inl (.inr ⟨opened, nothing⟩))
  · by_cases empty : window.queued = 0
    · refine .inr (.inr ?_)
      rw [after, if_neg kept, if_pos empty]
    · exact .inr (.inl (.inl ⟨kept, empty⟩))

end

end Window

/-- The window that is open after all that has happened. -/
def windowOf (timeline : List (Nat × Record)) : Window := timeline.foldl Window.after {}

@[simp] theorem windowOf_append_singleton (timeline : List (Nat × Record)) (entry : Nat × Record) :
    windowOf (timeline ++ [entry]) = (windowOf timeline).after entry :=
  List.foldl_concat ..

/-- A window was opened at a time, and this has happened since then, but no size was chosen. -/
def Opened (start : Nat) (since timeline : List (Nat × Record)) : Prop :=
  ∃ before record, timeline = before ++ (start, record) :: since ∧
    (windowOf before).IsOpenedBy record ∧ ∀ entry ∈ since, entry.2.started? = none

section

variable {timeline since : List (Nat × Record)} {entry : Nat × Record} {start : Nat}

theorem Window.IsOpenedBy.opened (opens : (windowOf timeline).IsOpenedBy entry.2) :
    Opened entry.1 [] (timeline ++ [entry]) :=
  ⟨timeline, entry.2, rfl, opens, by simp⟩

theorem Opened.later (opened : Opened start since timeline) (kept : entry.2.started? = none) :
    Opened start (since ++ [entry]) (timeline ++ [entry]) := by
  obtain ⟨before, record, rfl, opens, unsized⟩ := opened
  refine ⟨before, record, by simp, opens, fun other member => ?_⟩
  rcases List.mem_append.mp member with earlier | last
  · exact unsized other earlier
  · rwa [List.mem_singleton.mp last]

/-- What has happened tells at most one window. -/
theorem opened_windowOf_iff :
    (windowOf timeline).opened = some (start, since) ↔ Opened start since timeline := by
  constructor
  · intro opened
    induction timeline using List.reverseRecOn generalizing since with
    | nil => contradiction
    | append_singleton timeline entry hypothesis =>
        rw [windowOf_append_singleton] at opened
        rcases (windowOf timeline).opened_after_cases entry with
          ⟨begun, earlier, still, kept⟩ | opens | closed
        · rw [Window.opened_after_of_opened still kept] at opened
          cases opened
          exact (hypothesis still).later kept
        · rw [Window.opened_after_of_isOpenedBy opens] at opened
          cases opened
          exact opens.opened
        · rw [closed] at opened
          contradiction
  · rintro ⟨before, record, rfl, opens, unsized⟩
    induction since using List.reverseRecOn with
    | nil =>
        rw [windowOf_append_singleton]
        exact Window.opened_after_of_isOpenedBy opens
    | append_singleton since entry hypothesis =>
        obtain ⟨earlier, last⟩ := List.forall_mem_append.mp unsized
        have opened := hypothesis earlier
        rw [← List.cons_append, ← List.append_assoc, windowOf_append_singleton]
        exact Window.opened_after_of_opened opened (last entry (List.mem_singleton.mpr rfl))

end

/-! ## The estimator keeps that window -/

variable [Scalar Number]

namespace Chronicle

variable {chronicle before after : Chronicle Number}

/-- The estimator keeps what the records tell. -/
structure Agrees (chronicle : Chronicle Number) : Prop where
  queued : (windowOf chronicle.timeline).queued = chronicle.queue.length
  start : chronicle.estimator.start = (windowOf chronicle.timeline).opened.map Prod.fst
  count : chronicle.estimator.count = (deliveries (windowOf chronicle.timeline).since).length

namespace Agrees

omit [Scalar Number] in
theorem count_of_unopened
    (agrees : chronicle.Agrees)
    (unopened : (windowOf chronicle.timeline).opened = none) : chronicle.estimator.count = 0 := by
  rw [agrees.count, Window.since, unopened]
  rfl

omit [Scalar Number] in
/-- As long as no size is chosen, everything that happens is added to a window that is open. -/
theorem extended
    (agrees : chronicle.Agrees)
    (isOpen : chronicle.estimator.start ≠ none)
    (record : Record)
    (kept : record.started? = none) :
    let window := windowOf (chronicle.timeline ++ [(chronicle.now, record)])
    chronicle.estimator.start = window.opened.map Prod.fst ∧
      (deliveries window.since).length =
        chronicle.estimator.count + (deliveries [(chronicle.now, record)]).length := by
  intro window
  have same : window = (windowOf chronicle.timeline).after (chronicle.now, record) :=
    windowOf_append_singleton ..
  cases opened : (windowOf chronicle.timeline).opened with
  | none => exact absurd (by rw [agrees.start, opened]; rfl) isOpen
  | some opening =>
      have grown : window.opened = some (opening.1, opening.2 ++ [(chronicle.now, record)]) :=
        same ▸ Window.opened_after_of_opened opened kept
      rw [agrees.start, agrees.count, Window.since, Window.since, grown, opened]
      simp

omit [Scalar Number] in
theorem noted
    (agrees : chronicle.Agrees)
    {record : Record}
    (incidental : record.IsIncidental) :
    ({ chronicle with timeline := chronicle.timeline ++ [(chronicle.now, record)] } :
      Chronicle Number).Agrees := by
  obtain ⟨⟨kept, undelivered⟩, nothing⟩ := incidental
  have queued : (windowOf (chronicle.timeline ++ [(chronicle.now, record)])).queued =
      chronicle.queue.length := by
    rw [windowOf_append_singleton, Window.after, undelivered, nothing]
    exact agrees.queued
  by_cases unset : chronicle.estimator.start = none
  · have unopened : (windowOf chronicle.timeline).opened = none :=
      Option.map_eq_none_iff.mp (agrees.start.symm.trans unset)
    have still : (windowOf (chronicle.timeline ++ [(chronicle.now, record)])).opened = none := by
      rw [windowOf_append_singleton]
      exact Window.opened_after_of_unopened unopened kept nothing
    refine ⟨queued, unset.trans (still ▸ rfl), ?_⟩
    rw [Window.since, still]
    exact agrees.count_of_unopened unopened
  · obtain ⟨start, count⟩ := agrees.extended unset record kept
    rw [deliveries_singleton_of_silent _ undelivered] at count
    exact ⟨queued, start, count.symm⟩

theorem sized
    (agrees : chronicle.Agrees)
    (several : chronicle.estimator.isSingle = false)
    (number : Nat)
    (sizes : List Nat) :
    ({ chronicle with
      estimator := (chronicle.estimator.nextSize chronicle.now chronicle.queue.length).2
      timeline := chronicle.timeline ++ [(chronicle.now, .asked (.startFetch number sizes))] } :
        Chronicle Number).Agrees := by
  rw [chronicle.estimator.nextSize_of_several several]
  have next : windowOf (chronicle.timeline ++
      [(chronicle.now, .asked (.startFetch number sizes))]) =
        { queued := chronicle.queue.length
          opened := if chronicle.queue.length = 0 then none else some (chronicle.now, []) } := by
    rw [windowOf_append_singleton, ← agrees.queued]
    rfl
  refine ⟨next ▸ rfl, ?start, ?count⟩
  case start =>
    rw [next]
    dsimp only
    split <;> rfl
  case count =>
    rw [next]
    dsimp only [Window.since]
    split <;> rfl

omit [Scalar Number] in
theorem taken
    (agrees : chronicle.Agrees)
    (isOpen : chronicle.estimator.start ≠ none)
    {envelope : Envelope}
    {rest : List Envelope}
    (queued : chronicle.queue = envelope :: rest) :
    ({ chronicle with
      estimator := chronicle.estimator.recordDelivery
      queue := rest
      timeline := chronicle.timeline ++ [(chronicle.now, .popped envelope)] } :
        Chronicle Number).Agrees := by
  obtain ⟨start, count⟩ := agrees.extended isOpen (.popped envelope) rfl
  refine ⟨?_, start, count.symm⟩
  rw [windowOf_append_singleton]
  show (windowOf chronicle.timeline).queued + 0 - 1 = rest.length
  rw [agrees.queued, queued]
  rfl

omit [Scalar Number] in
theorem foundEmpty (agrees : chronicle.Agrees) :
    ({ chronicle with estimator := chronicle.estimator.recordEmpty chronicle.now } :
      Chronicle Number).Agrees := by
  obtain ⟨stop, same⟩ := chronicle.estimator.exists_recordEmpty_eq chronicle.now
  rw [same]
  exact ⟨agrees.queued, agrees.start, agrees.count⟩

omit [Scalar Number] in
theorem stored
    (agrees : chronicle.Agrees)
    (number : Nat)
    (envelope : Envelope)
    (rest : List Envelope) :
    ({ chronicle with
      estimator := chronicle.estimator.recordArrival chronicle.now
      queue := chronicle.queue ++ envelope :: rest
      timeline := chronicle.timeline ++
        [(chronicle.now, .fetched number (.ok (envelope :: rest)))] } :
          Chronicle Number).Agrees := by
  have queued : (windowOf (chronicle.timeline ++
      [(chronicle.now, .fetched number (.ok (envelope :: rest)))])).queued =
        (chronicle.queue ++ envelope :: rest).length := by
    rw [windowOf_append_singleton, List.length_append, ← agrees.queued]
    rfl
  unfold Estimator.recordArrival
  split
  next unset =>
    have unopened : (windowOf chronicle.timeline).opened = none := by
      simpa [agrees.start] using unset
    have begun : (windowOf (chronicle.timeline ++
        [(chronicle.now, .fetched number (.ok (envelope :: rest)))])).opened =
          some (chronicle.now, []) := by
      rw [windowOf_append_singleton]
      exact Window.opened_after_of_isOpenedBy (.inr ⟨unopened, List.cons_ne_nil _ _⟩)
    refine ⟨queued, begun ▸ rfl, ?_⟩
    rw [Window.since, begun]
    exact agrees.count_of_unopened unopened
  next already =>
    have isOpen : chronicle.estimator.start ≠ none := by simpa using already
    obtain ⟨start, count⟩ :=
      agrees.extended isOpen (.fetched number (.ok (envelope :: rest))) rfl
    exact ⟨queued, start, count.symm⟩

theorem step
    (agrees : before.Agrees)
    (sound : before.gauge.Sound)
    (step : before.Step after) : after.Agrees := by
  cases step with
  | passed nanos => exact ⟨agrees.queued, agrees.start, agrees.count⟩
  | noted incidental => exact agrees.noted incidental
  | sized number sizes => exact agrees.sized sound.several number sizes
  | taken queued =>
      -- Nobody takes a message while there is no window, since nothing is queued then.
      refine agrees.taken (fun unset => ?_) queued
      have empty : before.queue = [] := (sound.unopened unset).2.1
      rw [queued] at empty
      contradiction
  | foundEmpty empty => exact agrees.foundEmpty
  | stored number envelope rest => exact agrees.stored number envelope rest

theorem steps
    (agrees : before.Agrees)
    (sound : before.gauge.Sound)
    (steps : before.Steps after) : after.Agrees := by
  have both : after.gauge.Sound ∧ after.Agrees := by
    induction steps with
    | refl => exact ⟨sound, agrees⟩
    | tail _ last hypothesis =>
        exact ⟨hypothesis.1.step last.gauge, hypothesis.2.step hypothesis.1 last⟩
  exact both.2

end Agrees
end Chronicle

/-- The window is the one that what has happened tells. -/
theorem agrees_sessionOf
    (setup : Setup Number)
    (several : setup.receiving.isSingle = false)
    (moves : List Move) :
    ((sessionOf setup moves).subscription.chronicle (sessionOf setup moves).now
      (timelineOf setup moves)).Agrees := by
  induction moves using List.reverseRecOn with
  | nil => exact ⟨rfl, rfl, rfl⟩
  | append_singleton moves move hypothesis =>
      exact hypothesis.steps (sound_sessionOf setup several moves)
        (chronicle_append_singleton setup moves move)

/-! ## Batches of single messages -/

/-- The times at which messages arrived. -/
def arrivals (timeline : List (Nat × Record)) : List Nat :=
  timeline.filterMap fun entry => if entry.2.arrived = [] then none else some entry.1

@[simp] theorem arrivals_append (first second : List (Nat × Record)) :
    arrivals (first ++ second) = arrivals first ++ arrivals second :=
  List.filterMap_append

theorem arrivals_singleton_of_nothing
    (time : Nat)
    {record : Record}
    (nothing : record.arrived = []) : arrivals [(time, record)] = [] :=
  List.filterMap_cons_none (if_pos nothing)

namespace Chronicle

variable {before after : Chronicle Number}

/-- No size that was chosen has made a difference: the first arrival has opened the window, and all
deliveries are counted. -/
structure Undivided (initial : Number) (chronicle : Chronicle Number) : Prop where
  single : chronicle.estimator.isSingle = true
  running : chronicle.estimator.running = initial
  start : chronicle.estimator.start = (arrivals chronicle.timeline).head?
  count : chronicle.estimator.count = (deliveries chronicle.timeline).length

namespace Undivided

variable {initial : Number}

omit [Scalar Number] in
theorem noted
    (undivided : before.Undivided initial)
    {record : Record}
    (undelivered : record.popped? = none)
    (nothing : record.arrived = []) :
    ({ before with timeline := before.timeline ++ [(before.now, record)] } :
      Chronicle Number).Undivided initial where
  single := undivided.single
  running := undivided.running
  start := by simp [arrivals_singleton_of_nothing _ nothing, undivided.start]
  count := by simp [deliveries_singleton_of_silent _ undelivered, undivided.count]

theorem step (undivided : before.Undivided initial) (step : before.Step after) :
    after.Undivided initial := by
  have single := undivided.single
  have running := undivided.running
  have start := undivided.start
  have count := undivided.count
  cases step with
  | passed nanos => exact ⟨single, running, start, count⟩
  | noted incidental => exact undivided.noted incidental.1.2 incidental.2
  | sized number sizes =>
      rw [before.estimator.nextSize_of_isSingle _ _ single]
      exact undivided.noted rfl rfl
  | @taken envelope rest queued =>
      have nothing : arrivals [(before.now, .popped envelope)] = [] := rfl
      refine ⟨single, running, ?_, ?_⟩
      · simp [Estimator.recordDelivery, nothing, start]
      · simp [Estimator.recordDelivery, count]
  | foundEmpty empty =>
      obtain ⟨stop, same⟩ := before.estimator.exists_recordEmpty_eq before.now
      rw [same]
      exact ⟨single, running, start, count⟩
  | stored number envelope rest =>
      have arrived :
          arrivals [(before.now, .fetched number (.ok (envelope :: rest)))] = [before.now] := rfl
      unfold Estimator.recordArrival
      split
      next unset =>
        have none := (Option.isNone_iff_eq_none.mp unset).symm.trans start
        exact ⟨single, running, by simp [arrived, ← none], by simp [count]⟩
      next already =>
        refine ⟨single, running, ?_, by simp [count]⟩
        rw [arrivals_append, List.head?_append, ← start, Option.or_of_isSome]
        simpa [Option.isSome_iff_ne_none] using already

theorem steps (undivided : before.Undivided initial) (steps : before.Steps after) :
    after.Undivided initial := by
  induction steps with
  | refl => exact undivided
  | tail _ last hypothesis => exact hypothesis.step last

end Undivided
end Chronicle

theorem undivided_sessionOf
    (setup : Setup Number)
    (single : setup.receiving.isSingle = true)
    (moves : List Move) :
    ((sessionOf setup moves).subscription.chronicle (sessionOf setup moves).now
      (timelineOf setup moves)).Undivided (Scalar.greatest setup.tuning.initial Scalar.one) := by
  induction moves using List.reverseRecOn with
  | nil => exact ⟨single, rfl, rfl, rfl⟩
  | append_singleton moves move hypothesis =>
      exact hypothesis.steps (chronicle_append_singleton setup moves move)

/-! ## The window of a session -/

/-- Unless batches are single messages, there is a window whenever messages are queued, and what is
counted are the messages that left the queue since it was opened. With single messages the estimate
never changes, and the window and the count go on from the first arrival. -/
theorem window_since_opened (setup : Setup Number) (moves : List Move) :
    let session := sessionOf setup moves
    let estimator := session.subscription.estimator
    let timeline := timelineOf setup moves
    (setup.receiving.isSingle = false →
      (session.subscription.queue ≠ [] → estimator.start ≠ none) ∧
      (estimator.start = none → estimator.stop = none ∧ estimator.count = 0) ∧
      (∀ stop, estimator.stop = some stop →
        ∃ start, estimator.start = some start ∧ start ≤ stop ∧ stop ≤ session.now) ∧
      ∀ start, estimator.start = some start →
        ∃ since, Opened start since timeline ∧ estimator.count = (deliveries since).length) ∧
    (setup.receiving.isSingle = true →
      (∀ now queueLength, estimator.nextSize now queueLength = (1, estimator)) ∧
      (∀ background ∈ session.started, background.2 = [1]) ∧
      estimator.running = Scalar.greatest setup.tuning.initial Scalar.one ∧
      estimator.start = (arrivals timeline).head? ∧
      estimator.count = (deliveries timeline).length) := by
  intro session estimator timeline
  refine ⟨fun several => ?several, fun single => ?single⟩
  case several =>
    have sound := sound_sessionOf setup several moves
    have agrees := agrees_sessionOf setup several moves
    refine ⟨fun queued unset => queued (sound.unopened unset).2.1, fun unset => ?unset,
      fun stop stopped => ?stopped, fun start opened => ?opened⟩
    case unset =>
      obtain ⟨unstopped, -, nothing⟩ := sound.unopened unset
      exact ⟨unstopped, sound.counted.trans (congrArg List.length nothing)⟩
    case stopped =>
      cases opened : estimator.start with
      | none => exact absurd (stopped.symm.trans (sound.unopened opened).1) (by simp)
      | some start =>
          obtain ⟨ordered, past, -⟩ := sound.closed start stop opened stopped
          exact ⟨start, rfl, ordered, past⟩
    case opened =>
      obtain ⟨⟨begun, since⟩, present, same⟩ :=
        Option.map_eq_some_iff.mp (agrees.start.symm.trans opened)
      cases same
      refine ⟨since, opened_windowOf_iff.mp present, agrees.count.trans ?_⟩
      rw [Window.since, present]
      rfl
  case single =>
    have undivided := undivided_sessionOf setup single moves
    exact ⟨fun now queueLength => estimator.nextSize_of_isSingle now queueLength undivided.single,
      fun background => sizes_eq_one single, undivided.running, undivided.start, undivided.count⟩

/-- Before messages arrive there is no window. When the last message has arrived, it is queued, and
the window was closed that was opened when a size was chosen while messages were queued. -/
theorem window_since_opened_of_refilling :
    let idle := (sessionOf .hasty (refilling.take 4)).subscription.estimator
    let busy := (sessionOf .hasty (refilling.take 22)).subscription
    let estimator := busy.estimator
    let envelope : Envelope := { body := [], ackId := some (.number 0) }
    let moves : List Move :=
      [.receive 0, .turn 0 {}, .turn 0 {}, .turn 0 { fetched := .returned (.ok [envelope]) },
        .turn 0 {}, .turn 0 {}, .turn 0 {}, .turn 0 {}, .turn 0 {}, .receive 0, .turn 0 {}]
    let single := sessionOf .exact moves
    (idle.start = none ∧ idle.stop = none ∧ idle.count = 0) ∧
      (busy.queue ≠ [] ∧ estimator.start ≠ none) ∧
      (estimator.stop = some 1010000000 ∧
        ∃ start, estimator.start = some start ∧ start ≤ 1010000000) ∧
      (estimator.start = some 1000000000 ∧
        ∃ since, Opened 1000000000 since (timelineOf .hasty (refilling.take 22)) ∧
          estimator.count = (deliveries since).length) ∧
      single.started = [(0, [1]), (1, [1])] ∧
      single.subscription.estimator.nextSize 0 0 = (1, single.subscription.estimator) := by
  intro idle busy estimator envelope moves single
  have several : Setup.hasty.receiving.isSingle = false := rfl
  have unset : idle.start = none := by decide +kernel
  have queued : busy.queue ≠ [] := by decide +kernel
  have stopped : estimator.stop = some 1010000000 := by decide +kernel
  have opened : estimator.start = some 1000000000 := by decide +kernel
  obtain ⟨-, unopened, -⟩ := (window_since_opened .hasty (refilling.take 4)).1 several
  obtain ⟨covered, -, closed, counted⟩ := (window_since_opened .hasty (refilling.take 22)).1 several
  obtain ⟨start, begun, ordered, -⟩ := closed 1010000000 stopped
  refine ⟨⟨unset, unopened unset⟩, ⟨queued, covered queued⟩, ⟨stopped, start, begun, ordered⟩,
    ⟨opened, counted 1000000000 opened⟩, by decide +kernel, ?_⟩
  exact ((window_since_opened .exact moves).2 rfl).1 0 0

end Subscription
end PubSub
