import PubSub.Batch.Tasks
import PubSub.Event.Basic

/-!
# Shutting down

A topic and a subscription are shut down in the same way. The first call marks the
end; every later call is refused. Then the batcher is flushed, unless the context of
the call is cancelled before it is idle. Then the context of the driver calls is
ended and the driver is closed, and the result is announced.
-/

namespace PubSub

/-- Where a shutdown stands. -/
inductive Closing
  | begin
  | flushing (flush : Batcher.Flush)
  /-- The driver is being closed. -/
  | calling
  deriving DecidableEq

/-- How a shutdown ends. -/
inductive Closed
  /-- It was not the first. -/
  | refused (error : Error)
  /-- The driver was closed; the caller is answered once the subscribers have had their
  events. -/
  | closed (result : Outcome Unit)
  /-- The closing of the driver ended abnormally. -/
  | panicked (info : String)

/-- What a shutdown does with the state that it shuts down. -/
structure Closable (State Effect : Type) where
  /-- Mark the end; only the first attempt succeeds. -/
  beginShutdown : State → Outcome State
  flush : State → Batcher.Flush → Turn State Batcher.Flush Unit Effect
  /-- End the context of the driver calls. -/
  endBackground : State → State
  /-- The result, given whether the context of the call is cancelled and how the closing of
  the driver ended. -/
  shutdownResult : State → Bool → Except Fault Unit → Outcome Unit × State
  /-- The announcement of the result. -/
  shutdownEvent : Outcome Unit → Event
  publish : Event → Effect
  close : Effect

namespace Closing

variable {State Effect : Type}

def endCalls (closable : Closable State Effect) (state : State) (effects : List Effect) :
    Turn State Closing Closed Effect :=
  { state := closable.endBackground state
    next := .continue .calling
    effects := effects ++ [closable.close] }

def step
    (closable : Closable State Effect)
    (moment : Moment)
    (cancelled : Bool)
    (answer : Answer (Except Fault Unit))
    (state : State) : Closing → Turn State Closing Closed Effect
  | .begin =>
      match closable.beginShutdown state with
      | .error error => { state, next := .done (.refused error) }
      | .ok ending => { state := ending, next := .continue (.flushing .starting) }
  | .flushing flush =>
      if cancelled && moment.contextFirst then endCalls closable state []
      else
        let turn := closable.flush state flush
        match turn.next with
        | .done _ => endCalls closable turn.state turn.effects
        | .continue later => { turn with next := .continue (.flushing later) }
        | .wait later =>
            if cancelled then endCalls closable turn.state turn.effects
            else { turn with next := .wait (.flushing later) }
  | .calling =>
      match answer with
      | .running => { state, next := .wait .calling }
      | .panicked info => { state, next := .done (.panicked info) }
      | .returned closed =>
          let (result, after) := closable.shutdownResult state cancelled closed
          { state := after
            next := .done (.closed result)
            effects := [closable.publish (closable.shutdownEvent result)] }

end Closing
end PubSub
