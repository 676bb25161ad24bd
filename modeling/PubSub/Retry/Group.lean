import PubSub.Retry.Call

/-!
# Retried calls made together

A group makes several retried calls at once. Its members are looked at one after
the other, in their order, over and over. The group succeeds with the values of all
members, in their order, once each of them has succeeded. The first error ends the
group, and the members that still run are abandoned; so does a member that ends
abnormally.
-/

namespace PubSub
namespace Retry

/-- One of the calls of a group. -/
inductive Member (Request Value : Type)
  | running (request : Request) (phase : Phase)
  | succeeded (value : Value)
  deriving DecidableEq

/-- Retried calls made together. -/
structure Group (Request Value : Type) where
  members : List (Member Request Value)
  /-- Place of the member that is looked at next. -/
  place : Nat := 0

/-- What a group does next. -/
inductive GroupStep (Request Value : Type)
  | wait (group : Group Request Value)
  | continue (group : Group Request Value)
  /-- Start the operation of the member at a place. -/
  | call (place : Nat) (request : Request) (group : Group Request Value)
  /-- Announce another attempt of a member. -/
  | announce (event : Event) (group : Group Request Value)
  | finish (result : Outcome (List Value))
  /-- End abnormally. -/
  | crash (info : String)

namespace Group

variable {Request Value : Type}

/-- A group that is about to start all its operations. -/
def ofRequests (requests : List Request) : Group Request Value :=
  { members := requests.map fun request => .running request (.starting 0) }

/-- The values of members, if all of them have succeeded. -/
def valuesOf? : List (Member Request Value) → Option (List Value)
  | [] => some []
  | .running .. :: _ => none
  | .succeeded value :: rest => (valuesOf? rest).map (value :: ·)

/-- The same group with another member at the place that is looked at. -/
def setCurrent (group : Group Request Value) (member : Member Request Value) :
    Group Request Value :=
  { group with members := group.members.set group.place member }

/-- Look at the next member. -/
def advance (group : Group Request Value) : Group Request Value :=
  { group with place := group.place + 1 }

/-- The place whose operation is running and is looked at next, if there is one. -/
def awaited? (group : Group Request Value) : Option Nat :=
  match group.members[group.place]? with
  | some (.running _ phase) => if phase.isCalling then some group.place else none
  | _ => none

/-- What a group does when someone looks at its next member, whose operation has come to an
answer. -/
def step
    (plan : Request → RetryPlan)
    (cancelled : Bool)
    (moment : Moment)
    (answer : Answer (Except Fault Value))
    (group : Group Request Value) : GroupStep Request Value :=
  match group.members[group.place]? with
  | none =>
      match valuesOf? group.members with
      | some values => .finish (.ok values)
      | none => .wait { group with place := 0 }
  | some (.succeeded _) => .continue group.advance
  | some (.running request phase) =>
      match phase.step (plan request) cancelled moment answer with
      | .wait => .continue group.advance
      | .call failures =>
          .call group.place request (group.setCurrent (.running request (.calling failures)))
      | .announce event next => .announce event (group.setCurrent (.running request next))
      | .continue next => .continue (group.setCurrent (.running request next))
      | .finish (.ok value) => .continue (group.setCurrent (.succeeded value)).advance
      | .finish (.error error) => .finish (.error error)
      | .crash info => .crash info

/-- Nothing is left to wait for exactly when every member has succeeded. -/
theorem valuesOf?_isSome_iff {members : List (Member Request Value)} :
    (valuesOf? members).isSome = true
      ↔ ∀ member ∈ members, ∃ value, member = .succeeded value := by
  induction members with
  | nil => simp [valuesOf?]
  | cons first rest hypothesis =>
      cases first with
      | running request phase => simp [valuesOf?]
      | succeeded value => simp [valuesOf?, hypothesis]

end Group
end Retry
end PubSub
