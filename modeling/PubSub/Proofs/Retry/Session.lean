import PubSub.Retry.Call

/-!
# Sessions of a retried call

A session is a retried call with the time, its context, and a record of what has happened. A move is
one thing that may happen next: somebody looks at the call, time passes, or the context is
cancelled. Whoever looks at the call says what its operation has come to, if it is running, and
which of the possible delays chance picks. A run is a list of moves, so a statement about every run
is one about every operation and every order of events.
-/

namespace PubSub
namespace Retry

/-- Something that has happened. -/
inductive Record (Value : Type)
  /-- The operation was started. -/
  | called (time : Nat)
  /-- Another attempt was announced at a time, and has to wait for another one. -/
  | announced (event : Event) (time wakeAt : Nat)
  /-- The wait for another attempt is over. -/
  | resumed (time : Nat)
  | finished (result : Outcome Value)
  /-- The call ended abnormally. -/
  | crashed (info : String)

/-- A retried call. -/
structure Session (Value : Type) where
  /-- Where the call stands; none once it is over. -/
  phase : Option Phase := some (.starting 0)
  /-- Time in nanoseconds. -/
  now : Nat := 0
  /-- Whether the context of the call is cancelled. -/
  cancelled : Bool := false
  /-- What has happened, oldest first. -/
  records : List (Record Value) := []

/-- What somebody who looks at the call finds out. -/
structure Finding (Value : Type) where
  contextFirst : Bool := false
  pick : Delays → Duration := Delays.shortest
  /-- What the operation has come to, if it is running. -/
  answer : Answer (Except Fault Value) := .running

/-- What may happen next. -/
inductive Move (Value : Type)
  | look (finding : Finding Value)
  | elapse (nanos : Nat)
  | cancel

/-- The time that a pause lasts to. -/
def Phase.wakeAt : Phase → Nat
  | .pausing _ wakeAt => wakeAt
  | .starting _ => 0
  | .calling _ => 0

namespace Session

variable {Value : Type}

def note (session : Session Value) (phase : Option Phase) (record : Record Value) :
    Session Value :=
  { session with phase, records := session.records ++ [record] }

/-- What the call does next is done. -/
def follow (session : Session Value) : Step Value → Session Value
  | .wait => session
  | .call failures => session.note (some (.calling failures)) (.called session.now)
  | .announce event phase =>
      session.note (some phase) (.announced event session.now phase.wakeAt)
  | .continue phase => session.note (some phase) (.resumed session.now)
  | .finish result => session.note none (.finished result)
  | .crash info => session.note none (.crashed info)

/-- What somebody who looks at the call finds around it. -/
def moment (session : Session Value) (finding : Finding Value) : Moment :=
  { now := session.now, contextFirst := finding.contextFirst, pick := finding.pick }

/-- Make a move. There is nothing to look at once the call is over. -/
def step (plan : RetryPlan) (session : Session Value) : Move Value → Session Value
  | .look finding =>
      match session.phase with
      | none => session
      | some phase =>
          session.follow
            (phase.step plan session.cancelled (session.moment finding) finding.answer)
  | .elapse nanos => { session with now := session.now + nanos }
  | .cancel => { session with cancelled := true }

/-- Make moves, one after the other. -/
def run (plan : RetryPlan) (session : Session Value) (moves : List (Move Value)) :
    Session Value :=
  moves.foldl (step plan) session

theorem run_append
    (plan : RetryPlan)
    (session : Session Value)
    (earlier later : List (Move Value)) :
    session.run plan (earlier ++ later) = (session.run plan earlier).run plan later :=
  List.foldl_append

end Session

/-- The session of a new call after a list of moves. -/
def sessionOf {Value : Type} (plan : RetryPlan) (moves : List (Move Value)) : Session Value :=
  Session.run plan {} moves

theorem sessionOf_append
    {Value : Type}
    (plan : RetryPlan)
    (earlier later : List (Move Value)) :
    sessionOf plan (earlier ++ later) = (sessionOf plan earlier).run plan later :=
  Session.run_append ..

/-! ## What a session shows -/

section Views

variable {Value : Type}

@[simp] def Record.call? : Record Value → Option Nat
  | .called time => some time
  | _ => none

@[simp] def Record.pause? : Record Value → Option (Event × Nat × Nat)
  | .announced event time wakeAt => some (event, time, wakeAt)
  | _ => none

@[simp] def Record.result? : Record Value → Option (Outcome Value)
  | .finished result => some result
  | _ => none

namespace Session

variable (session : Session Value)

/-- The times at which the operation was started, oldest first. -/
def calls : List Nat := session.records.filterMap Record.call?

/-- The announcements of another attempt, oldest first, each with its time and the time that the
attempt waits for. -/
def pauses : List (Event × Nat × Nat) := session.records.filterMap Record.pause?

/-- The results of the call; there is one at most. -/
def results : List (Outcome Value) := session.records.filterMap Record.result?

end Session
end Views

end Retry
end PubSub
