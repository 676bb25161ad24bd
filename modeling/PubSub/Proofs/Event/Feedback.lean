import PubSub.Proofs.Event.Draining
import PubSub.Proofs.Event.Listening

/-!
# Feedback comes to an end

A hub publishes its own reports on the bus that feeds its subscribers. What a subscriber that is
given a report does about it may lead to another report. `feedback` lists the reports that an event
may lead to. If no chain of reports goes on for ever, every event has a finite depth, and what is
left to do after the last event from outside is a number, `Session.work`, that every turn of the
listener or of a worker makes smaller.

The loss of a report of a loss is not reported, so losses alone never keep a hub busy. An abnormal
end on a report is, so a subscriber that ends abnormally on its own reports is reported again and
again.
-/

namespace PubSub

/-- A queue refuses an event because it is full or closed. -/
theorem SubscriberQueue.reason_of_refusal?
    {queue : SubscriberQueue}
    {event : Event}
    {reason : String}
    (refused : queue.refusal? event = some reason) : reason = "full" ∨ reason = "closed" := by
  unfold refusal? offer at refused
  split at refused
  next => cases refused
  next given =>
    split at given
    next => simp_all
    next => split at given <;> simp_all

namespace Hub

/-! ## Reports that lead to reports -/

/-- With what text the subscriber at a place ends abnormally on an event, if it does. -/
abbrev Rules := Nat → Event → Option String

/-- The reports that an event may lead to: a subscriber ends abnormally on it, or misses it. -/
def feedback (names : List String) (rules : Rules) (event : Event) : List Event :=
  names.zipIdx.filterMap
      (fun named => (rules named.2 event).map (Event.subscriberPanicked named.1)) ++
    if event.isOverflow then []
    else names.flatMap fun name => ["full", "closed"].map (Event.subscriberOverflow name)

section Feedback

variable {names : List String} {rules : Rules} {event : Event} {name : String}

theorem mem_feedback_of_panicked
    {place : Nat}
    {info : String}
    (named : names[place]? = some name)
    (ruled : rules place event = some info) :
    Event.subscriberPanicked name info ∈ feedback names rules event := by
  refine List.mem_append_left _ (List.mem_filterMap.mpr ⟨(name, place), ?_, by rw [ruled]; rfl⟩)
  exact List.mem_zipIdx_iff_getElem?.mpr named

theorem mem_feedback_of_missed
    {reason : String}
    (member : name ∈ names)
    (reasons : reason = "full" ∨ reason = "closed")
    (lossy : event.isOverflow = false) :
    Event.subscriberOverflow name reason ∈ feedback names rules event := by
  refine List.mem_append_right _ ?_
  rw [if_neg (by simp [lossy])]
  exact List.mem_flatMap.mpr ⟨name, member, List.mem_map_of_mem (by simpa using reasons)⟩

/-- How long a chain of reports an event may lead to, if none goes on for ever. -/
noncomputable def depth
    (ends : WellFounded fun report cause => report ∈ feedback names rules cause) : Event → Nat :=
  ends.fix fun event later =>
    (feedback names rules event).attach.foldr
      (fun report longest => max (later report.1 report.2 + 1) longest) 0

/-- A report leads to shorter chains than its cause. -/
theorem depth_lt_of_mem_feedback
    (ends : WellFounded fun report cause => report ∈ feedback names rules cause)
    {report : Event}
    (member : report ∈ feedback names rules event) : depth ends report < depth ends event := by
  have bound (reports : List { report // report ∈ feedback names rules event }) :
      ∀ later ∈ reports, depth ends later.1 + 1 ≤
        reports.foldr (fun report longest => max (depth ends report.1 + 1) longest) 0 := by
    intro later present
    induction reports with
    | nil => contradiction
    | cons first rest hypothesis =>
        rcases List.mem_cons.mp present with rfl | other
        · exact Nat.le_max_left ..
        · exact Nat.le_trans (hypothesis other) (Nat.le_max_right ..)
  have unfolded : depth ends event = (feedback names rules event).attach.foldr
      (fun report longest => max (depth ends report.1 + 1) longest) 0 := by
    rw [depth, ends.fix_eq]
  rw [unfolded]
  exact bound _ ⟨report, member⟩ (List.mem_attach ..)

end Feedback

/-! ## Runs without events from outside -/

/-- What a subscriber that follows the rules may come to about an event. -/
def Rules.Allow (rules : Rules) (place : Nat) (event : Event) : Answer Unit → Prop
  | .running => True
  | .returned _ => rules place event = none
  | .panicked info => rules place event = some info

instance (rules : Rules) (place : Nat) (event : Event) :
    (answer : Answer Unit) → Decidable (rules.Allow place event answer)
  | .running => inferInstanceAs (Decidable True)
  | .returned _ => inferInstanceAs (Decidable (rules place event = none))
  | .panicked info => inferInstanceAs (Decidable (rules place event = some info))

namespace Session

/-- A move brings no event from outside, and subscribers follow the rules. -/
def Heeds (session : Session) (rules : Rules) : Move → Prop
  | .publish _ => False
  | .emit _ => False
  | .work place answer => ∀ event ∈ session.handling place, rules.Allow place event answer
  | _ => True

instance (session : Session) (rules : Rules) : (move : Move) → Decidable (session.Heeds rules move)
  | .publish _ => inferInstanceAs (Decidable False)
  | .emit _ => inferInstanceAs (Decidable False)
  | .work place answer =>
      inferInstanceAs
        (Decidable (∀ event ∈ session.handling place, rules.Allow place event answer))
  | .listen => inferInstanceAs (Decidable True)
  | .close => inferInstanceAs (Decidable True)
  | .shutdown => inferInstanceAs (Decidable True)
  | .finish _ => inferInstanceAs (Decidable True)

/-- Moves bring no event from outside, and subscribers follow the rules. -/
def Follows (rules : Rules) : Session → List Move → Prop
  | _, [] => True
  | session, move :: moves => session.Heeds rules move ∧ (session.step move).Follows rules moves

/-- Whether moves follow the rules can be computed. -/
def decidableFollows (rules : Rules) :
    (session : Session) → (moves : List Move) → Decidable (session.Follows rules moves)
  | _, [] => inferInstanceAs (Decidable True)
  | session, move :: moves =>
      @instDecidableAnd _ _ (inferInstanceAs (Decidable (session.Heeds rules move)))
        (decidableFollows rules (session.step move) moves)

instance (session : Session) (rules : Rules) (moves : List Move) :
    Decidable (session.Follows rules moves) := decidableFollows rules session moves

/-- How many turns of the listener and of the workers do not wait. -/
def turns : Session → List Move → Nat
  | _, [] => 0
  | session, move :: moves => (session.acts move).toNat + (session.step move).turns moves

theorem follows_append {session : Session} {rules : Rules} {moves later : List Move} :
    session.Follows rules (moves ++ later) ↔
      session.Follows rules moves ∧ (session.run moves).Follows rules later := by
  induction moves generalizing session with
  | nil => simp [Follows, run]
  | cons move moves hypothesis =>
      simp only [List.cons_append, Follows, hypothesis, and_assoc]
      rfl

theorem turns_append (session : Session) (moves later : List Move) :
    session.turns (moves ++ later) = session.turns moves + (session.run moves).turns later := by
  induction moves generalizing session with
  | nil => simp [turns, run]
  | cons move moves hypothesis =>
      simp only [List.cons_append, turns, hypothesis, Nat.add_assoc]
      rfl

end Session

/-! ## The price of an event -/

/-- The sum of the prices of the members of a list. -/
def total {Item : Type} (price : Item → Nat) : List Item → Nat
  | [] => 0
  | first :: rest => price first + total price rest

section Total

variable {Item : Type} (price : Item → Nat)

@[simp] theorem total_nil : total price [] = 0 := rfl

@[simp] theorem total_cons (first : Item) (rest : List Item) :
    total price (first :: rest) = price first + total price rest := rfl

@[simp] theorem total_append (items others : List Item) :
    total price (items ++ others) = total price items + total price others := by
  induction items with
  | nil => simp
  | cons first rest hypothesis => simp [hypothesis, Nat.add_assoc]

theorem total_set
    {items : List Item}
    {place : Nat}
    {item : Item}
    (here : items[place]? = some item)
    (later : Item) :
    total price (items.set place later) + price item = total price items + price later := by
  induction items generalizing place with
  | nil => simp at here
  | cons first rest hypothesis =>
      cases place with
      | zero =>
          obtain rfl : first = item := by simpa using here
          simp only [List.set_cons_zero, total_cons]
          omega
      | succ place =>
          have known := hypothesis (by simpa using here)
          simp only [List.set_cons_succ, total_cons]
          omega

end Total

/-- What reports at most lead to, given the length of the chains and how many subscribers are told
of each. -/
def echo (count : Nat) : Nat → Nat
  | 0 => 0
  | depth + 1 => 1 + count * (3 + echo count depth)

/-- Longer chains lead to more. -/
theorem echo_le_echo (count : Nat) {less more : Nat} (le : less ≤ more) :
    echo count less ≤ echo count more := by
  induction less generalizing more with
  | zero => exact Nat.zero_le _
  | succ less hypothesis =>
      obtain ⟨more, rfl⟩ : ∃ other, more = other + 1 := ⟨more - 1, by omega⟩
      have step := Nat.mul_le_mul_left count
        (Nat.add_le_add_left (hypothesis (Nat.le_of_succ_le_succ le)) 3)
      exact Nat.add_le_add_left step 1

section Work

variable (count : Nat) (depth : Event → Nat)

/-- What there is to do about an event that a subscriber is given: to begin, to end, to report. -/
def dutyOf (event : Event) : Nat := 3 + echo count (depth event)

/-- What there is to do about an event on the bus. -/
def newsOf (event : Event) : Nat := echo count (depth event + 1)

def workerWork : Option Worker → Nat
  | none => 0
  | some .idle => 1
  | some (.handling event) => dutyOf count depth event

def queueWork (queue : SubscriberQueue) : Nat := total (dutyOf count depth) queue.events

def busWork (bus : Broadcast BusReader Event) : Nat :=
  total (newsOf count depth) (bus.backlog .listener) + (bus.isBehind .listener).toNat

/-- What there is to do, if no more events come from outside. -/
def Session.remaining (session : Session) : Nat :=
  total (queueWork count depth) session.hub.queues +
    total (workerWork count depth) session.workers +
    busWork count depth session.hub.bus + session.isListening.toNat

/-- What there is to do, and what has been reported. -/
def Session.burden (session : Session) : Nat :=
  session.remaining count depth + session.reported.length

end Work

/-! ## What a turn leaves to do -/

section Prices

variable (count : Nat) {depth : Event → Nat}

/-- What an event may lead to is less than the news of it. -/
theorem newsOf_le_echo {report event : Event} (less : depth report < depth event) :
    newsOf count depth report ≤ echo count (depth event) :=
  echo_le_echo count less

theorem busWork_publish
    (depth : Event → Nat)
    {bus : Broadcast BusReader Event}
    (heard : bus.receivers = [] ∨ ∃ position, bus.Serves .listener position)
    (event : Event) :
    busWork count depth (bus.publish event) ≤
      busWork count depth bus + newsOf count depth event := by
  rcases heard with none | ⟨position, serves⟩
  · simp [Broadcast.publish, none]
  · rcases @Broadcast.Serves.backlog_publish _ _ _ _ _ _ event serves with
      ⟨grown, same⟩ | ⟨some, shifted, behind⟩
    · simp [busWork, grown, same]
      omega
    · obtain ⟨first, rest, backlog⟩ := List.exists_cons_of_ne_nil some
      have price : 0 < newsOf count depth first := Nat.add_pos_left Nat.one_pos _
      simp only [busWork, shifted, backlog, behind, List.tail_cons, total_append, total_cons,
        total_nil, Bool.toNat_true]
      omega

theorem Session.burden_announce
    (depth : Event → Nat)
    {session : Session}
    (hears : session.Hears)
    (events : List Event) :
    (session.announce events).burden count depth ≤
      session.burden count depth + total (fun event => 1 + newsOf count depth event) events := by
  induction events generalizing session with
  | nil => simp [Session.announce_nil]
  | cons event events hypothesis =>
      have rest := hypothesis (hears.perform event)
      have heard : session.hub.bus.receivers = [] ∨
          ∃ position, session.hub.bus.Serves .listener position := by
        cases listening : session.isListening with
        | true => exact .inr (hears.listening listening)
        | false => exact .inl (hears.left listening)
      have first := busWork_publish count depth heard event
      rw [Session.announce_cons]
      simp only [Session.burden, Session.remaining, Session.perform, Session.note, Session.reported,
        Hub.publish, List.flatMap_append, List.flatMap_singleton, Record.reports,
        List.length_append, List.length_singleton, total_cons] at rest ⊢
      omega

variable {names : List String} {rules : Rules} {event : Event}

/-- A queue that is offered an event has more to do, or there is a loss to tell of. -/
theorem queueWork_offered
    {queue : SubscriberQueue}
    (shorter : ∀ report ∈ feedback names rules event, depth report < depth event)
    (named : queue.name ∈ names) :
    queueWork count depth (queue.offered event) +
        total (fun report => 1 + newsOf count depth report)
          (if event.isOverflow then [] else (queue.loss? event).toList) ≤
      queueWork count depth queue + dutyOf count depth event := by
  cases refusal : queue.refusal? event with
  | none =>
      simp [SubscriberQueue.offered_of_refusal?_eq_none refusal, SubscriberQueue.loss?, refusal,
        queueWork]
  | some reason =>
      rw [SubscriberQueue.offered_of_refusal?_eq_some refusal, SubscriberQueue.loss?, refusal]
      cases lossy : event.isOverflow with
      | true => simp
      | false =>
          have member : Event.subscriberOverflow queue.name reason ∈ feedback names rules event :=
            mem_feedback_of_missed named (SubscriberQueue.reason_of_refusal? refusal) lossy
          have price := newsOf_le_echo count (shorter _ member)
          simp [dutyOf]
          omega

/-- Each queue that is offered an event has more to do, or there is a loss to tell of. -/
theorem queuesWork_offered
    {queues : List SubscriberQueue}
    (shorter : ∀ report ∈ feedback names rules event, depth report < depth event)
    (named : ∀ queue ∈ queues, queue.name ∈ names) :
    total (queueWork count depth) (queues.map (SubscriberQueue.offered · event)) +
        total (fun report => 1 + newsOf count depth report)
          (if event.isOverflow then [] else queues.filterMap (SubscriberQueue.loss? · event)) ≤
      total (queueWork count depth) queues + queues.length * dutyOf count depth event := by
  induction queues with
  | nil => simp
  | cons queue rest hypothesis =>
      have first := queueWork_offered count shorter (named queue (.head _))
      have later := hypothesis fun queue member => named queue (.tail _ member)
      have split : (if event.isOverflow then []
          else (queue :: rest).filterMap (SubscriberQueue.loss? · event)) =
          (if event.isOverflow then [] else (queue.loss? event).toList) ++
          (if event.isOverflow then [] else rest.filterMap (SubscriberQueue.loss? · event)) := by
        cases event.isOverflow <;> cases loss : queue.loss? event <;> simp [loss]
      rw [split, total_append, List.map_cons, total_cons, total_cons, List.length_cons,
        Nat.succ_mul]
      omega

variable {session : Session}

/-- What an offer adds is what is to be done for each subscriber. -/
theorem Session.burden_offer
    (hears : session.Hears)
    (named : session.hub.queues.map SubscriberQueue.name = names)
    (shorter : ∀ report ∈ feedback names rules event, depth report < depth event) :
    (session.offer event).burden count depth ≤
      session.burden count depth + names.length * dutyOf count depth event := by
  have lengths : session.hub.queues.length = names.length := by simp [← named]
  have queues := queuesWork_offered count shorter
    fun queue (member : queue ∈ session.hub.queues) => named ▸ List.mem_map_of_mem member
  have kept : ({ session with
      hub :=
        { session.hub with
          queues := session.hub.queues.map (SubscriberQueue.offered · event) } }.note
      [.offered event (session.hub.refusals event)]).Hears := ⟨hears.listening, hears.left⟩
  have reports := Session.burden_announce count depth kept (session.hub.losses event)
  rw [lengths] at queues
  rw [Session.offer]
  refine Nat.le_trans reports ?_
  simp only [Session.burden, Session.remaining, Session.note, Session.reported, losses,
    List.flatMap_append, List.flatMap_singleton, Record.reports, List.append_nil] at queues ⊢
  omega

/-- A turn of the listener that does not wait leaves less to do. -/
theorem Listens.burden
    {acting : Bool}
    {after : Session}
    (turn : Listens session acting after)
    (listening : session.isListening = true)
    (hears : session.Hears)
    (named : session.hub.queues.map SubscriberQueue.name = names)
    (shorter : ∀ event, ∀ report ∈ feedback names rules event, depth report < depth event) :
    after.burden names.length depth + acting.toNat ≤ session.burden names.length depth := by
  obtain ⟨position, serves⟩ := hears.listening listening
  cases turn with
  | @heard event bus received =>
      obtain ⟨moved, backlog, abreast, still⟩ := serves.receive_item received
      have heard : ({ session with hub := { session.hub with bus } } : Session).Hears :=
        ⟨fun _ => ⟨_, moved⟩, fun left => by simp [listening] at left⟩
      have offered := Session.burden_offer names.length heard named (shorter event)
      have price : newsOf names.length depth event =
          1 + names.length * dutyOf names.length depth event := rfl
      refine Nat.le_trans (Nat.add_le_add_right offered _) ?_
      simp only [Session.burden, Session.remaining, busWork, backlog, abreast, still, total_cons,
        price, Session.reported, Bool.toNat_true]
      omega
  | missed received =>
      obtain ⟨-, backlog, behind, abreast⟩ := serves.receive_lagged received
      simp only [Session.burden, Session.remaining, busWork, backlog, behind, abreast,
        Session.reported, Session.note, List.flatMap_append, List.flatMap_singleton,
        Record.reports, List.append_nil, Bool.toNat_true, Bool.toNat_false]
      omega
  | left =>
      have none := serves.unsubscribe
      simp only [Session.burden, Session.remaining, Session.reported, endListener, busWork,
        Broadcast.backlog, Broadcast.isBehind, Broadcast.position?, none, listening,
        List.lookup_nil, total_nil, Bool.toNat_true, Bool.toNat_false]
      omega
  | waited => exact Nat.le_refl _

/-- A turn of a worker that does not wait leaves less to do. -/
theorem Works.burden
    {place : Nat}
    {worker : Worker}
    {answer : Answer Unit}
    {acting : Bool}
    {after : Session}
    (turn : Works session place worker answer acting after)
    (present : session.workers[place]? = some (some worker))
    (hears : session.Hears)
    (named : session.hub.queues.map SubscriberQueue.name = names)
    (shorter : ∀ event, ∀ report ∈ feedback names rules event, depth report < depth event)
    (heeds : session.Heeds rules (.work place answer)) :
    after.burden count depth + acting.toNat ≤ session.burden count depth := by
  have placed (later : Option Worker) := total_set (workerWork count depth) present later
  cases turn with
  | @began queue event rest _ here next =>
      have workers := placed (some (.handling event))
      have queues := total_set (queueWork count depth) here { queue with events := rest }
      simp [Session.burden, Session.remaining, Session.reported, Session.note, setQueue,
        workerWork, queueWork, next, Record.reports] at workers queues ⊢
      omega
  | ended here =>
      have workers := placed none
      simp [Session.burden, Session.remaining, Session.reported, endWorker, workerWork]
        at workers ⊢
      omega
  | finished =>
      have workers := placed (some .idle)
      simp [Session.burden, Session.remaining, Session.reported, Session.note, workerWork, dutyOf,
        Record.reports] at workers ⊢
      omega
  | @panicked queue event info here =>
      have workers := placed (some .idle)
      have allowed : rules.Allow place event (.panicked info) :=
        heeds event (by simp [Session.handling, present])
      have name : names[place]? = some queue.name := by simp [← named, here]
      have price := newsOf_le_echo count
        (shorter event _ (mem_feedback_of_panicked name allowed))
      have kept : ({ session with workers := session.workers.set place (some .idle) }.note
          [.panicked place event info]).Hears := ⟨hears.listening, hears.left⟩
      have reports := Session.burden_announce count depth kept
        [Event.subscriberPanicked queue.name info]
      simp [Session.burden, Session.remaining, Session.reported, Session.note, workerWork, dutyOf,
        Record.reports] at workers reports ⊢
      omega
  | waited | handling => exact Nat.le_refl _

/-- A closing has no work for the listener and the workers. -/
theorem Finishes.burden
    {others : List Ending}
    {ending : Ending}
    {acting : Bool}
    {after : Session}
    (turn : Finishes session others ending acting after)
    (depth : Event → Nat) :
    after.burden count depth = session.burden count depth := by
  have queues (queues : List SubscriberQueue) :
      total (queueWork count depth) (queues.map SubscriberQueue.close) =
        total (queueWork count depth) queues := by
    induction queues with
    | nil => rfl
    | cons queue rest hypothesis => simp [hypothesis, queueWork, SubscriberQueue.close]
  cases turn <;>
    simp [Session.burden, Session.remaining, Session.reported, Session.note, Record.reports,
      closeQueues, queues]

theorem Session.burden_step
    (hears : session.Hears)
    (aligned : session.IsAligned)
    (named : session.hub.queues.map SubscriberQueue.name = names)
    (shorter : ∀ event, ∀ report ∈ feedback names rules event, depth report < depth event)
    {move : Move}
    (heeds : session.Heeds rules move) :
    (session.step move).burden names.length depth + (session.acts move).toNat ≤
      session.burden names.length depth := by
  cases move with
  | publish event | emit event => exact heeds.elim
  | listen =>
      rw [step]
      split
      next listening => exact (listens listening).burden listening hears named shorter
      next idle => simp [acts, idle]
  | work place answer =>
      rw [step]
      split
      next worker present =>
        exact (works aligned present answer).burden names.length present hears named shorter heeds
      next absent =>
        rcases present : session.workers[place]? with _ | _ | worker
        · simp [acts, present]
        · simp [acts, present]
        · exact absurd present (absent worker)
  | close | shutdown => exact Nat.le_refl _
  | finish index =>
      rw [step]
      split
      next ending here => exact Nat.le_of_eq ((finishes _ ending).burden names.length depth)
      next => exact Nat.le_refl _

end Prices

/-! ## The end of it -/

section Runs

variable {busCapacity : Nat} {subscribers : List (String × Nat)} {rules : Rules}

/-- Every turn that does not wait is paid for by what there was to do. -/
theorem burden_add_turns_le
    {depth : Event → Nat}
    (shorter : ∀ event, ∀ report ∈ feedback (subscribers.map Prod.fst) rules event,
      depth report < depth event)
    {moves later : List Move}
    (follows : (sessionOf busCapacity subscribers moves).Follows rules later) :
    ((sessionOf busCapacity subscribers moves).run later).burden subscribers.length depth +
        (sessionOf busCapacity subscribers moves).turns later ≤
      (sessionOf busCapacity subscribers moves).burden subscribers.length depth := by
  induction later generalizing moves with
  | nil => exact Nat.le_refl _
  | cons move later hypothesis =>
      have first := Session.burden_step (hears moves) (isAligned moves) (accounts moves).named
        shorter follows.1
      rw [List.length_map] at first
      have following := follows.2
      rw [← sessionOf_append_singleton] at first following
      have rest := hypothesis following
      simp only [Session.run, List.foldl_cons, Session.turns,
        sessionOf_append_singleton] at first rest ⊢
      omega

/-- If no chain of reports goes on for ever, then after the last event from outside the listener
and the workers take finitely many turns in which they do anything, and publish finitely many
reports, in whatever order they take turns and however often somebody closes the hub. -/
theorem feedback_ends
    (busCapacity : Nat)
    (subscribers : List (String × Nat))
    (rules : Rules)
    (ends : WellFounded fun report cause =>
      report ∈ feedback (subscribers.map Prod.fst) rules cause)
    (moves : List Move) :
    let session := sessionOf busCapacity subscribers moves
    ∃ bound, ∀ later, session.Follows rules later →
      session.turns later ≤ bound ∧
      (session.run later).reported.length ≤ bound ∧
      ∀ move, (move = .listen ∨ ∃ place answer, move = .work place answer) →
        (session.run later).acts move = false →
        (session.run later).step move = session.run later := by
  intro session
  refine ⟨session.burden subscribers.length (depth ends), fun later follows => ?_⟩
  have paid := burden_add_turns_le (fun _ _ => depth_lt_of_mem_feedback ends) follows
  have aligned : (session.run later).IsAligned := by
    rw [← sessionOf_append]
    exact isAligned (moves ++ later)
  refine ⟨Nat.le_trans (Nat.le_add_left ..) paid, ?_,
    fun move => Session.step_of_acts_eq_false aligned⟩
  exact Nat.le_trans (Nat.le_trans (Nat.le_add_left ..) (Nat.le_add_right ..)) paid

/-- Subscribers that do not end abnormally on reports lead to no endless chain of them. -/
theorem wellFounded_feedback
    (names : List String)
    (rules : Rules)
    (calm : ∀ place event, event.isPanic = true ∨ event.isOverflow = true →
      rules place event = none) :
    WellFounded fun report cause => report ∈ feedback names rules cause := by
  let rank (event : Event) : Nat :=
    if event.isOverflow then 0 else if event.isPanic then 1 else 2
  refine Subrelation.wf ?_ (measure rank).wf
  intro report cause member
  rcases List.mem_append.mp member with panics | losses
  · obtain ⟨⟨name, place⟩, -, ruled⟩ := List.mem_filterMap.mp panics
    obtain ⟨info, given, rfl⟩ := Option.map_eq_some_iff.mp ruled
    have neither : ¬(cause.isPanic = true ∨ cause.isOverflow = true) := by
      intro reported
      simp [calm place cause reported] at given
    have first : rank cause = 2 := by simp_all [rank]
    change rank (Event.subscriberPanicked name info) < rank cause
    rw [first]
    exact Nat.lt_succ_self 1
  · split at losses
    next => cases losses
    next lossy =>
      obtain ⟨name, -, reasons⟩ := List.mem_flatMap.mp losses
      obtain ⟨reason, -, rfl⟩ := List.mem_map.mp reasons
      change rank (Event.subscriberOverflow name reason) < rank cause
      have last : rank (Event.subscriberOverflow name reason) = 0 := rfl
      simp only [last, rank, if_neg lossy]
      split <;> decide

end Runs

/-- The rules of subscribers that end abnormally when a batch is dispatched, and at no report. -/
def startled : Rules := fun _ event => if event.kind = .batchDispatched then some "boom" else none

theorem feedback_ends_of_startled :
    let names := [("x", 1)].map Prod.fst
    let session := sessionOf 1 [("x", 1)] [.publish (.batchDispatched "t" "send" 1)]
    let later : List Move :=
      [.listen, .work 0 .running, .work 0 (.panicked "boom"), .listen, .work 0 .running,
        .work 0 (.returned ())]
    WellFounded (fun report cause => report ∈ feedback names startled cause) ∧
      session.Follows startled later ∧ session.turns later = 6 ∧
      ∃ bound, session.turns later ≤ bound ∧ (session.run later).reported.length ≤ bound := by
  intro names session later
  have calm : WellFounded fun report cause => report ∈ feedback names startled cause :=
    wellFounded_feedback names startled fun place event reports => by
      simp only [Event.isPanic, Event.isOverflow, beq_iff_eq] at reports
      rcases reports with kind | kind <;> simp [startled, kind]
  have follows : session.Follows startled later := by decide +kernel
  obtain ⟨bound, ended⟩ := feedback_ends 1 [("x", 1)] startled calm
    [.publish (.batchDispatched "t" "send" 1)]
  have paid := ended later follows
  exact ⟨calm, follows, by decide +kernel, bound, paid.1, paid.2.1⟩

/-! ## Feedback without an end -/

/-- A hub that has published so many events. The last one waits on the bus, and the only
subscriber is idle. -/
def ringing (published : Nat) (event : Event) (records : List Record) : Session :=
  { hub :=
      { bus :=
          { capacity := 1, sent := published + 1, kept := [event],
            receivers := [(.listener, published)] }
        queues := [SubscriberQueue.create "x" 1]
        isListening := true }
    workers := [some .idle]
    isListening := true
    records }

/-- The subscriber hears of an event and ends abnormally. -/
def ring : List Move := [.listen, .work 0 .running, .work 0 (.panicked "boom")]

def rung (event : Event) : List Record :=
  [.offered event [none], .began 0 event, .panicked 0 event "boom",
    .reported (.subscriberPanicked "x" "boom")]

variable (published : Nat) (event : Event) (records : List Record)

theorem step_listen_ringing :
    (ringing published event records).step .listen =
      { ringing published event (records ++ [.offered event [none]]) with
        hub :=
          { bus :=
              { capacity := 1, sent := published + 1, kept := [event],
                receivers := [(.listener, published + 1)] }
            queues := [{ SubscriberQueue.create "x" 1 with events := [event] }]
            isListening := true } } := by
  have oldest : published + 1 - 1 = published := rfl
  simp [ringing, Session.step, Session.listen, listenerStep, Broadcast.receive,
    Broadcast.position?, Broadcast.oldest, Broadcast.moveTo, Hub.emit, offerAll,
    SubscriberQueue.offer, SubscriberQueue.create, hearRecords, refusals, SubscriberQueue.refusal?,
    report, Session.perform, Session.note, Next.tasks]

/-- After the subscriber has ended abnormally on an event, there is another one on the bus. -/
theorem run_ring :
    (ringing published event records).run ring =
      ringing (published + 1) (.subscriberPanicked "x" "boom") (records ++ rung event) := by
  rw [Session.run, ring, List.foldl_cons, step_listen_ringing]
  simp [ringing, Session.step, Session.work, Worker.step, SubscriberQueue.create,
    SubscriberQueue.take?, setQueue, Session.performWorker, Session.perform, Session.note,
    answerRecords, Next.tasks, Hub.publish, Broadcast.publish, rung]

theorem follows_ring :
    (ringing published event records).Follows (fun _ _ => some "boom") ring ∧
      (ringing published event records).turns ring = 3 := by
  have acting : (ringing published event records).acts .listen = true := by
    simp [ringing, Session.acts, listenerStep, Broadcast.receive, Broadcast.position?,
      Broadcast.oldest, Next.isWaiting]
  rw [ring, Session.Follows, Session.turns, step_listen_ringing, acting]
  simp [ringing, Session.Follows, Session.Heeds, Session.handling, Rules.Allow, Session.turns,
    Session.acts, Session.step, Session.work, Worker.step, SubscriberQueue.create,
    SubscriberQueue.take?, setQueue, Session.performWorker, Session.note, Next.tasks,
    Next.isWaiting]

/-- The subscriber is told again and again that it has ended abnormally. -/
theorem exists_rings (bound : Nat) :
    ∃ later, (ringing published event records).Follows (fun _ _ => some "boom") later ∧
      bound ≤ (ringing published event records).turns later ∧
      (records.flatMap Record.reports).length + bound ≤
        ((ringing published event records).run later).reported.length := by
  induction bound generalizing published event records with
  | zero => exact ⟨[], trivial, Nat.zero_le _, Nat.le_refl _⟩
  | succ bound hypothesis =>
      obtain ⟨later, follows, turns, reported⟩ :=
        hypothesis (published + 1) (.subscriberPanicked "x" "boom") (records ++ rung event)
      obtain ⟨first, three⟩ := follows_ring published event records
      have more : ((rung event).flatMap Record.reports).length = 1 := rfl
      rw [List.flatMap_append, List.length_append, more] at reported
      have whole (session : Session) : session.run (ring ++ later) = (session.run ring).run later :=
        List.foldl_append
      refine ⟨ring ++ later, Session.follows_append.mpr ⟨first, ?follows⟩, ?turns, ?reported⟩
      case follows => rwa [run_ring]
      case turns =>
        rw [Session.turns_append, run_ring, three]
        omega
      case reported =>
        rw [whole, run_ring]
        omega

/-- A subscriber that ends abnormally on every event is reported without an end: the report of its
abnormal end is the next event that it ends abnormally on. -/
theorem feedback_without_end :
    let session := sessionOf 1 [("x", 1)] [.publish (.batchDispatched "t" "send" 1)]
    ∀ bound, ∃ later, session.Follows (fun _ _ => some "boom") later ∧
      bound ≤ session.turns later ∧ bound ≤ (session.run later).reported.length := by
  intro session bound
  have start : session = ringing 0 (.batchDispatched "t" "send" 1)
      [.published (.batchDispatched "t" "send" 1)] := by
    have capacity : Nat.nextPowerOfTwo 1 = 1 := by decide +kernel
    simp [session, sessionOf, Session.start, create, Broadcast.create, Broadcast.subscribe,
      Broadcast.unsubscribe, capacity, ringing, Session.run, Session.step, Session.note,
      Hub.publish, Broadcast.publish]
  obtain ⟨later, follows, turns, reported⟩ := exists_rings 0 (.batchDispatched "t" "send" 1)
    [.published (.batchDispatched "t" "send" 1)] bound
  rw [start]
  exact ⟨later, follows, turns, Nat.le_trans (Nat.le_add_left ..) reported⟩

end Hub
end PubSub
