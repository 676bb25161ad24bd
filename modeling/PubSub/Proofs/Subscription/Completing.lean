import PubSub.Proofs.Subscription.Delivery
import PubSub.Proofs.Subscription.Recording

/-!
# What becomes of a message

A message that a receiver got is acknowledged, refused or dropped, by any number of moves and in
any order. `Handles` sums up every move: it gives new messages to receivers, or it is a use of one
message. Two things may become of a message: a request for it is handed to the acknowledgments, or
it is announced as neglected. `Used` says which of them has become of the message at a place, given
what was done with it.
-/

namespace PubSub
namespace Subscription

variable {Number : Type}

/-! ## Uses and fates -/

/-- What may be done with a message. -/
inductive Use
  | completed (isAck : Bool)
  | dropped
  deriving DecidableEq

/-- What may become of a message. -/
inductive Fate
  | requested (request : AckRequest)
  | neglected
  deriving DecidableEq

/-- What a move does with the message at a place, if there is one. -/
def Move.use? (place : Nat) : Move → Option Use
  | .complete other isAck => if other = place then some (.completed isAck) else none
  | .discard other => if other = place then some .dropped else none
  | _ => none

/-- What becomes of a message by something that has happened. -/
@[simp] def Record.fate? : Record → Option Fate
  | .accepted entry => some (.requested entry.item)
  | .asked (.publish event) => if event.kind = .messageNotAcked then some .neglected else none
  | _ => none

namespace Session

/-- What has become of messages, oldest first. -/
@[simp] def fates (session : Session Number) : List Fate :=
  session.records.filterMap Record.fate?

/-- What a move does with the message at a place, which must be there. -/
def use? (session : Session Number) (place : Nat) (move : Move) : Option Use :=
  match session.messages[place]? with
  | some (some _) => move.use? place
  | _ => none

variable [Scalar Number]

/-- What moves do with the message at a place. -/
def usesOf (session : Session Number) (place : Nat) : List Move → List Use
  | [] => []
  | move :: later =>
      (session.use? place move).toList ++ (session.step move).usesOf place later

/-- What becomes of the message at a place by the moves that use it. -/
def fatesOf (session : Session Number) (place : Nat) : List Move → List Fate
  | [] => []
  | move :: later =>
      (match session.use? place move with
        | some _ => (session.step move).fates.drop session.fates.length
        | none => []) ++ (session.step move).fatesOf place later

theorem usesOf_append (session : Session Number) (place : Nat) (earlier later : List Move) :
    session.usesOf place (earlier ++ later) =
      session.usesOf place earlier ++ (session.run earlier).usesOf place later := by
  induction earlier generalizing session with
  | nil => rfl
  | cons move rest hypothesis =>
      rw [List.cons_append, usesOf, usesOf, hypothesis, List.append_assoc]
      rfl

theorem fatesOf_append (session : Session Number) (place : Nat) (earlier later : List Move) :
    session.fatesOf place (earlier ++ later) =
      session.fatesOf place earlier ++ (session.run earlier).fatesOf place later := by
  induction earlier generalizing session with
  | nil => rfl
  | cons move rest hypothesis =>
      rw [List.cons_append, fatesOf, fatesOf, hypothesis, List.append_assoc]
      rfl

end Session

/-- What may become of a message when it is used. -/
inductive Meets (message : Message) : Use → List Fate → Prop
  | requested {id : AckId} {isAck : Bool} (pending : message.state = .pending (.request id)) :
      Meets message (.completed isAck) [.requested { id, isAck }]
  /-- It was completed before, or the acknowledgments do not take the request. -/
  | lost {isAck : Bool} : Meets message (.completed isAck) []
  | neglected (due : message.isNeglected = true) : Meets message .dropped [.neglected]
  | settled (done : message.isNeglected = false) : Meets message .dropped []

/-- What is left of a message that was used. -/
def Use.leaves (message : Message) : Use → Option Message
  | .completed isAck => some (message.complete isAck).2
  | .dropped => none

/-- What a move does to messages. -/
inductive Handles (session : Session Number) (move : Move) (after : Session Number) : Prop
  | gave {new : List Message}
      (unused : ∀ place, session.use? place move = none)
      (messages : after.messages = session.messages ++ new.map some)
      (delivered : after.delivered = session.delivered ++ new)
      (fates : after.fates = session.fates) : Handles session move after
  | used {place : Nat} {use : Use} {message : Message} {new : List Fate}
      (present : session.messages[place]? = some (some message))
      (use_eq : move.use? place = some use)
      (only : ∀ other, other ≠ place → move.use? other = none)
      (meets : Meets message use new)
      (messages : after.messages = session.messages.set place (use.leaves message))
      (delivered : after.delivered = session.delivered)
      (fates : after.fates = session.fates ++ new) : Handles session move after

/-! ## Turns use no message -/

/-- Whether a record is about no message. -/
structure Record.IsSilent (record : Record) : Prop where
  fate : record.fate? = none
  delivered : record.delivered? = none

/-- No task decides what becomes of a message. -/
theorem Records.fate?_eq_none
    {session : Session Number}
    {finding : Finding}
    {activity : Activity}
    {record : Record}
    (records : Records session finding activity record) : record.fate? = none := by
  cases records with
  | retried calling kind => simp [kind]
  | _ => rfl

/-- Nobody but a receiver is given a message. -/
theorem Records.isSilent
    {session : Session Number}
    {finding : Finding}
    {activity : Activity}
    {record : Record}
    (records : Records session finding activity record)
    (other : ∀ context receiver, activity ≠ .receiver context receiver) : record.IsSilent := by
  refine ⟨records.fate?_eq_none, ?_⟩
  cases records with
  | received => exact absurd rfl (other _ _)
  | _ => rfl

/-- A session gives messages to receivers and does nothing else with messages. -/
def Gives (before after : Session Number) : Prop :=
  ∃ new : List Message,
    after.messages = before.messages ++ new.map some ∧
    after.delivered = before.delivered ++ new ∧
    after.fates = before.fates

/-- Nothing has happened that is about messages. -/
theorem Gives.of_isSilent
    {before after : Session Number}
    {happened : List Record}
    (messages : after.messages = before.messages)
    (records : after.records = before.records ++ happened)
    (silent : ∀ record ∈ happened, record.IsSilent) : Gives before after := by
  refine ⟨[], ?_, ?_, ?_⟩
  · rw [messages, List.map_nil, List.append_nil]
  · rw [Session.delivered, records, List.append_nil]
    exact filterMap_append_of_eq_none (fun record member => (silent record member).delivered) _
  · rw [Session.fates, records]
    exact filterMap_append_of_eq_none (fun record member => (silent record member).fate) _

section Moves

variable [Scalar Number]

omit [Scalar Number] in
/-- A receiver that is answered with a message is given it. -/
theorem exists_gotten_eq
    (context : Nat)
    (before after : Subscription Number)
    (next : Next Receiver (Outcome Message))
    (effects : List Effect) :
    ∃ new : List Message, gotten next = new.map some ∧
      (effects.map Record.asked ++ Receiver.records context before after next).filterMap
        Record.delivered? = new := by
  have asked : (effects.map Record.asked).filterMap Record.delivered? = [] := by
    simp [List.filterMap_map, Function.comp_def]
  have popped :
      ((poppedSince before after).map Record.popped).filterMap Record.delivered? = [] := by
    simp [List.filterMap_map, Function.comp_def]
  simp only [Receiver.records, List.filterMap_append, asked, popped, List.nil_append]
  cases next with
  | done result =>
      cases result with
      | ok message => exact ⟨[message], rfl, rfl⟩
      | error error => exact ⟨[], rfl, rfl⟩
  | _ => exact ⟨[], rfl, rfl⟩

/-- A turn uses no message. -/
theorem gives_turn
    (session : Session Number)
    (finding : Finding)
    (others : List Activity)
    (activity : Activity) : Gives session (session.turn finding others activity) := by
  obtain ⟨happened, records, known⟩ := exists_records_turn session finding others activity
  cases activity with
  | receiver context receiver =>
      have fates := filterMap_append_of_eq_none
        (fun record member => (known record member).fate?_eq_none) session.records
      obtain ⟨new, gotten, delivered⟩ := exists_gotten_eq context session.subscription _ _ _
      refine ⟨new, congrArg (session.messages ++ ·) gotten, ?_, ?_⟩
      · rw [← delivered]
        exact List.filterMap_append
      · rw [Session.fates, records]
        exact fates
  | fetch | handler | timer | shutdown =>
      exact .of_isSilent rfl records fun record member => (known record member).isSilent nofun

omit [Scalar Number] in
/-- A move that gives messages to receivers uses none. -/
theorem Gives.handles
    {session after : Session Number}
    {move : Move}
    (gives : Gives session after)
    (unused : ∀ place, session.use? place move = none) : Handles session move after := by
  obtain ⟨new, messages, delivered, fates⟩ := gives
  exact .gave unused messages delivered fates

omit [Scalar Number] in
/-- Nothing has happened at all. -/
theorem Gives.of_eq
    {before after : Session Number}
    (messages : after.messages = before.messages)
    (records : after.records = before.records) : Gives before after :=
  .of_isSilent messages (records.trans (List.append_nil _).symm) (by simp)

omit [Scalar Number] in
/-- Nothing can be done with a message that is not there. -/
theorem use?_of_absent
    {session : Session Number}
    {place : Nat}
    {move : Move}
    (absent : ∀ message, session.messages[place]? = some (some message) → False)
    (only : ∀ other, other ≠ place → move.use? other = none)
    (other : Nat) : session.use? other move = none := by
  unfold Session.use?
  split
  next message present =>
    refine only other fun same => ?_
    exact absent message (same ▸ present)
  next => rfl

omit [Scalar Number] in
/-- A request that is handed over is recorded, unless it comes too late. -/
theorem fates_request (session : Session Number) (request : AckRequest) :
    (session.request request).messages = session.messages ∧
      (session.request request).delivered = session.delivered ∧
      ((session.request request).fates = session.fates ++ [.requested request] ∨
        (session.request request).fates = session.fates) := by
  unfold Session.request
  split
  next => exact ⟨rfl, rfl, .inr rfl⟩
  next acks present =>
    split
    next => exact ⟨rfl, rfl, .inr rfl⟩
    next id dispatch accepted =>
      have silent : ∀ record ∈ (session.subscription.onAcks (Batcher.dispatched
          (session.moment {}) dispatch (.done () : Next Empty Unit))).effects.map Record.asked,
          record.IsSilent := by
        intro record member
        obtain ⟨effect, asked, rfl⟩ := List.mem_map.mp member
        obtain ⟨inner, rfl⟩ := exists_batching_of_mem_onAcks asked
        exact ⟨rfl, rfl⟩
      have delivered := List.filterMap_eq_nil_iff.mpr
        fun record member => (silent record member).delivered
      have fates := List.filterMap_eq_nil_iff.mpr
        fun record member => (silent record member).fate
      refine ⟨rfl, ?_, .inl ?_⟩
      · refine List.filterMap_append.trans ?_
        rw [List.filterMap_cons_none rfl, delivered]
        exact List.append_nil _
      · refine List.filterMap_append.trans ?_
        rw [List.filterMap_cons, fates]
        rfl

omit [Scalar Number] in
/-- A message that is completed asks for nothing more than one request, which is for its own
token. -/
theorem handles_complete (session : Session Number) (place : Nat) (isAck : Bool) :
    Handles session (.complete place isAck) (session.complete place isAck) := by
  unfold Session.complete
  split
  next message present =>
    have used {after : Session Number} {new : List Fate}
        (meets : Meets message (.completed isAck) new)
        (messages : after.messages =
          session.messages.set place (some (message.complete isAck).2))
        (delivered : after.delivered = session.delivered)
        (fates : after.fates = session.fates ++ new) :
        Handles session (.complete place isAck) after :=
      .used present (if_pos rfl) (fun _ other => if_neg (Ne.symm other)) meets messages delivered
        fates
    dsimp only
    split
    next request sent =>
      obtain ⟨id, pending, rfl⟩ : ∃ id, message.state = .pending (.request id) ∧
          request = { id, isAck } := by
        unfold Message.complete at sent
        grind
      generalize kept : ({ session with messages := _ } : Session Number) = holding
      obtain ⟨messages, delivered, fates | fates⟩ := fates_request holding { id, isAck }
      · subst kept
        exact used (.requested pending) messages delivered fates
      · subst kept
        exact used .lost messages delivered (fates.trans (List.append_nil _).symm)
    next => exact used .lost rfl rfl (List.append_nil _).symm
  next absent =>
    exact Gives.handles (.of_eq rfl rfl)
      (use?_of_absent absent fun _ other => if_neg (Ne.symm other))

omit [Scalar Number] in
/-- A message that is dropped is announced if nothing was asked for it. -/
theorem handles_discard (session : Session Number) (place : Nat) :
    Handles session (.discard place) (session.discard place) := by
  unfold Session.discard
  split
  next message present =>
    have used {new : List Fate} {happened : List Record}
        (meets : Meets message .dropped new)
        (delivered : happened.filterMap Record.delivered? = [])
        (fates : happened.filterMap Record.fate? = new) :
        Handles session (.discard place)
          { session with
            messages := session.messages.set place none
            records := session.records ++ happened } := by
      refine .used present (if_pos rfl) (fun _ other => if_neg (Ne.symm other)) meets rfl ?_ ?_
      · simp only [Session.delivered, List.filterMap_append, delivered, List.append_nil]
      · simp only [Session.fates, List.filterMap_append, fates]
    cases neglected : message.isNeglected with
    | true => exact used (.neglected neglected) rfl rfl
    | false => exact used (.settled neglected) rfl rfl
  next absent =>
    exact Gives.handles (.of_eq rfl rfl)
      (use?_of_absent absent fun _ other => if_neg (Ne.symm other))

/-- What every move does to messages. -/
theorem handles_step (session : Session Number) (move : Move) :
    Handles session move (session.step move) := by
  have unused (other : ∀ place, move.use? place = none) :
      ∀ place, session.use? place move = none := by
    intro place
    unfold Session.use?
    split
    next => exact other place
    next => rfl
  cases move with
  | receive context | shutdown context =>
      refine Gives.handles ?_ (unused fun _ => rfl)
      rw [Session.step, Session.call]
      split <;> exact .of_eq rfl rfl
  | cancel context | elapse nanos => exact Gives.handles (.of_eq rfl rfl) (unused fun _ => rfl)
  | abandon place =>
      refine Gives.handles ?_ (unused fun _ => rfl)
      rw [Session.step]
      split
      next => exact .of_eq rfl rfl
      next => split <;> exact .of_eq rfl rfl
  | drop =>
      refine Gives.handles ?_ (unused fun _ => rfl)
      rw [Session.step]
      split <;> exact .of_eq rfl rfl
  | turn place finding =>
      refine Gives.handles ?_ (unused fun _ => rfl)
      rw [Session.step]
      split
      next => exact .of_eq rfl rfl
      next => exact gives_turn session finding _ _
  | complete place isAck => exact handles_complete session place isAck
  | discard place => exact handles_discard session place

/-! ## What has become of a message -/

/-- As many messages are held or gone as receivers got. -/
def IsCounted (session : Session Number) : Prop :=
  session.messages.length = session.delivered.length

theorem isCounted_sessionOf (setup : Setup Number) (moves : List Move) :
    IsCounted (sessionOf setup moves) := by
  refine sessionOf_induction (by rfl) (fun earlier move same => ?_) moves
  unfold IsCounted at same ⊢
  cases handles_step (sessionOf setup earlier) move with
  | gave unused messages delivered fates =>
      rw [messages, delivered, List.length_append, List.length_append, List.length_map, same]
  | used present use_eq only meets messages delivered fates =>
      rw [messages, delivered, List.length_set, same]

/-- What has become of the message at a place, from what was done with it. -/
inductive Used (session : Session Number) (place : Nat) : List Use → List Fate → Prop
  | untouched (held : session.messages[place]? = session.delivered[place]?.map some) :
      Used session place [] []
  | completed {message : Message} {isAck : Bool} {later : List Use} {fates : List Fate}
      (delivered : session.delivered[place]? = some message)
      (meets : Meets message (.completed isAck) fates)
      (done : ∀ left, session.messages[place]? = some (some left) → left.state = .done) :
      Used session place (.completed isAck :: later) fates
  | dropped {message : Message} {fates : List Fate}
      (delivered : session.delivered[place]? = some message)
      (meets : Meets message .dropped fates)
      (gone : session.messages[place]? = some none) :
      Used session place [.dropped] fates

section Used

omit [Scalar Number]

variable {before after : Session Number} {move : Move} {place : Nat} {uses : List Use}
  {fates : List Fate}

/-- Messages that are given to receivers take their places after those that are there. -/
theorem Used.gave
    (counted : IsCounted before)
    {new : List Message}
    (messages : after.messages = before.messages ++ new.map some)
    (delivered : after.delivered = before.delivered ++ new)
    (used : Used before place uses fates) : Used after place uses fates := by
  have kept {message : Message} (was : before.delivered[place]? = some message) :
      after.messages[place]? = before.messages[place]? ∧
        after.delivered[place]? = some message := by
    obtain ⟨bound, -⟩ := List.getElem?_eq_some_iff.mp was
    have inside : place < before.messages.length := counted.symm ▸ bound
    rw [messages, delivered, List.getElem?_append_left inside, List.getElem?_append_left bound]
    exact ⟨rfl, was⟩
  cases used with
  | untouched held =>
      refine .untouched ?_
      rw [messages, delivered, List.getElem?_append, List.getElem?_append, counted]
      split
      next => exact held
      next => exact List.getElem?_map
  | completed was meets done =>
      exact .completed (kept was).2 meets fun left present => done left ((kept was).1 ▸ present)
  | dropped was meets gone => exact .dropped (kept was).2 meets ((kept was).1.trans gone)

/-- Something was done with another message. -/
theorem Used.other
    {other : Nat}
    (differ : other ≠ place)
    {left : Option Message}
    (messages : after.messages = before.messages.set other left)
    (delivered : after.delivered = before.delivered)
    (used : Used before place uses fates) : Used after place uses fates := by
  have same : after.messages[place]? = before.messages[place]? := by
    rw [messages, List.getElem?_set_ne differ]
  cases used with
  | untouched held => exact .untouched (by rw [same, delivered, held])
  | completed was meets done =>
      exact .completed (by rw [delivered, was]) meets fun left present =>
        done left (same ▸ present)
  | dropped was meets gone =>
      exact .dropped (by rw [delivered, was]) meets (same.trans gone)

/-- A message with which nothing was done is the one that a receiver got. -/
theorem delivered_of_untouched
    {message : Message}
    (held : before.messages[place]? = before.delivered[place]?.map some)
    (present : before.messages[place]? = some (some message)) :
    before.delivered[place]? = some message := by
  rw [present, eq_comm, Option.map_eq_some_iff] at held
  obtain ⟨other, was, same⟩ := held
  exact was.trans same

/-- A message that is not done is the one that a receiver got. -/
theorem Used.delivered_of_ne_done
    {message : Message}
    (used : Used before place uses fates)
    (present : before.messages[place]? = some (some message))
    (undone : message.state ≠ .done) : before.delivered[place]? = some message := by
  cases used with
  | untouched held => exact delivered_of_untouched held present
  | completed was meets done => exact absurd (done message present) undone
  | dropped was meets gone => exact absurd (Option.some.inj (present.symm.trans gone)) nofun

/-- Something was done with the message itself. -/
theorem Used.own
    {message : Message}
    {use : Use}
    {new : List Fate}
    (present : before.messages[place]? = some (some message))
    (meets : Meets message use new)
    (messages : after.messages = before.messages.set place (use.leaves message))
    (delivered : after.delivered = before.delivered)
    (used : Used before place uses fates) : Used after place (uses ++ [use]) (fates ++ new) := by
  obtain ⟨bound, -⟩ := List.getElem?_eq_some_iff.mp present
  have left : after.messages[place]? = some (use.leaves message) := by
    rw [messages, List.getElem?_set_self bound]
  have done : ∀ rest, after.messages[place]? = some (some rest) → rest.state = .done := by
    intro rest held
    rw [left] at held
    cases use with
    | completed isAck =>
        obtain rfl := Option.some.inj (Option.some.inj held)
        rfl
    | dropped => exact absurd (Option.some.inj held) nofun
  cases used with
  | untouched held =>
      have was : after.delivered[place]? = some message := by
        rw [delivered, delivered_of_untouched held present]
      cases use with
      | completed isAck => exact .completed was meets done
      | dropped => exact .dropped was meets left
  | completed was earlier quiet =>
      have finished := quiet message present
      obtain rfl : new = [] := by
        cases meets with
        | requested pending =>
            rw [finished] at pending
            contradiction
        | neglected due =>
            rw [Message.isNeglected, finished] at due
            contradiction
        | lost => rfl
        | settled => rfl
      rw [List.append_nil]
      exact .completed (by rw [delivered, was]) earlier done
  | dropped was earlier gone =>
      rw [present] at gone
      exact absurd (Option.some.inj gone) nofun

/-- What every move does to the message at a place. -/
theorem Used.step
    (counted : IsCounted before)
    (handles : Handles before move after)
    (used : Used before place uses fates) :
    Used after place (uses ++ (before.use? place move).toList)
      (fates ++ match before.use? place move with
        | some _ => after.fates.drop before.fates.length
        | none => []) := by
  cases handles with
  | gave unused messages delivered same =>
      rw [unused place]
      simpa using used.gave counted messages delivered
  | @used other use message new present use_eq only meets messages delivered grown =>
      by_cases here : other = place
      · subst here
        have using_eq : before.use? other move = some use := by
          rw [Session.use?, present]
          exact use_eq
        rw [using_eq, grown, List.drop_left]
        exact used.own present meets messages delivered
      · have unused : before.use? place move = none := by
          unfold Session.use?
          split
          next => exact only place (Ne.symm here)
          next => rfl
        rw [unused]
        simpa using used.other here messages delivered

end Used

/-- What has become of the message at a place after a list of moves. -/
theorem used_sessionOf (setup : Setup Number) (place : Nat) (moves : List Move) :
    Used (sessionOf setup moves) place (setup.session.usesOf place moves)
      (setup.session.fatesOf place moves) := by
  induction moves using List.reverseRecOn with
  | nil => exact .untouched rfl
  | append_singleton earlier move hypothesis =>
      have stepped := hypothesis.step (isCounted_sessionOf setup earlier)
        (handles_step (sessionOf setup earlier) move)
      rw [sessionOf_append_singleton, Session.usesOf_append, Session.fatesOf_append]
      rw [Session.usesOf, Session.fatesOf, Session.usesOf, Session.fatesOf, List.append_nil,
        List.append_nil]
      exact stepped

/-- What may become of a message with a token, from what was done with it, oldest first: nothing as
long as it is held, an announcement if it is dropped first, and at most a request for its token if
it is completed first, whatever is done with it later. -/
def Becomes (id : AckId) : List Use → List Fate → Prop
  | [], fates => fates = []
  | .dropped :: later, fates => later = [] ∧ fates = [.neglected]
  | .completed isAck :: _, fates => fates = [] ∨ fates = [.requested { id, isAck }]

omit [Scalar Number] in
theorem Used.becomes
    {session : Session Number}
    {place : Nat}
    {uses : List Use}
    {fates : List Fate}
    (used : Used session place uses fates)
    {message : Message}
    {id : AckId}
    (delivered : session.delivered[place]? = some message)
    (pending : message.state = .pending (.request id)) : Becomes id uses fates := by
  cases used with
  | untouched held => rfl
  | completed was meets done =>
      cases Option.some.inj (was.symm.trans delivered)
      cases meets with
      | requested same =>
          cases same.symm.trans pending
          exact .inr rfl
      | lost => exact .inl rfl
  | dropped was meets gone =>
      cases Option.some.inj (was.symm.trans delivered)
      cases meets with
      | neglected due => exact ⟨rfl, rfl⟩
      | settled quiet => simp [Message.isNeglected, pending] at quiet

/-- A move that uses no message decides what becomes of none. -/
theorem fates_step_of_unused
    {session : Session Number}
    {move : Move}
    (unused : ∀ place, session.use? place move = none) :
    (session.step move).fates = session.fates := by
  cases handles_step session move with
  | gave _ _ _ fates => exact fates
  | @used place use message new present use_eq only meets messages delivered fates =>
      have using_eq := unused place
      rw [Session.use?, present] at using_eq
      exact absurd (use_eq.symm.trans using_eq) nofun

/-- Every request that is handed over is for the token of a message that a receiver got. -/
theorem exists_delivered_of_requested
    (setup : Setup Number)
    (moves : List Move)
    {request : AckRequest}
    (requested : .requested request ∈ (sessionOf setup moves).fates) :
    ∃ message ∈ (sessionOf setup moves).delivered,
      message.state = .pending (.request request.id) := by
  induction moves using List.reverseRecOn with
  | nil => contradiction
  | append_singleton earlier move hypothesis =>
      rw [sessionOf_append_singleton] at requested ⊢
      cases handles_step (sessionOf setup earlier) move with
      | gave unused messages delivered fates =>
          rw [fates] at requested
          obtain ⟨message, was, pending⟩ := hypothesis requested
          exact ⟨message, by rw [delivered]; exact List.mem_append_left _ was, pending⟩
      | @used place use message new present use_eq only meets messages delivered fates =>
          rw [fates, List.mem_append] at requested
          rw [delivered]
          rcases requested with before | now
          · exact hypothesis before
          · cases meets with
            | @requested id isAck pending =>
                cases List.mem_singleton.mp now
                have was := (used_sessionOf setup place earlier).delivered_of_ne_done present
                  (by simp [pending])
                exact ⟨message, List.mem_of_getElem? was, pending⟩
            | neglected due => simp at now
            | lost => contradiction
            | settled => contradiction

end Moves

end Subscription
end PubSub
