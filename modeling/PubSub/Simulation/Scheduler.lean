import PubSub.Simulation.Steps

/-!
# The scheduler

One task runs at a time, until it has to wait; then the first ready task follows. A
turn is the smallest unit: it takes the next task, or makes one step of the task that
runs. Time stands still while a task can run. When none can, the clock moves to the
next time at which a waiting task runs again. Times are rounded up to whole
milliseconds.

A simulation may go on forever, so the number of turns is bounded.
-/

namespace PubSub
namespace Simulation

namespace World

/-- One turn of the scheduler; none if no task can run. -/
def turn (world : World) : Option World :=
  match world.running with
  | some activity =>
      let (progress, after) := (Sim.step activity).run { world with running := none }
      match progress with
      | .continue next => some { after with running := some next }
      | .wait next => some { after with waiting := after.waiting ++ [next] }
      | .done _ => some after
  | none =>
      match world.ready with
      | [] => none
      | next :: rest => some { world with ready := rest, running := some next }

/-- At most so many turns. -/
def turns : (limit : Nat) → World → World
  | 0, world => world
  | limit + 1, world =>
      match world.turn with
      | none => world
      | some after => turns limit after

/-- The number of turns between two moments of the clock that no simulation is meant to
reach. -/
def turnLimit : Nat := 10000000

/-- Run every task that can run. -/
def settle (world : World) : World := world.turns turnLimit

/-- The first whole millisecond not before a time, in nanoseconds. -/
def tick (time : Nat) : Nat := (time + 999999) / 1000000 * 1000000

/-- The next moment at which a waiting task runs again. -/
def nextTick (world : World) : Option Nat :=
  (world.waiting.foldl (fun found task => earlier found (task.nextAlarm world)) none).map tick

/-- Move the clock and make the tasks ready whose time has come. -/
def moveTo (world : World) (time : Nat) : World :=
  let isDue (task : Activity) : Bool := (task.nextAlarm world).any fun alarm => tick alarm ≤ time
  let parts := world.waiting.partition isDue
  { world with now := time, ready := world.ready ++ parts.1, waiting := parts.2 }

/-- Move the clock through every moment up to a time; each moment but the first is at least
a millisecond after the one before. -/
def elapseTo (target : Nat) : (moments : Nat) → World → World
  | 0, world => (world.moveTo target).settle
  | moments + 1, world =>
      match world.nextTick with
      | none => (world.moveTo target).settle
      | some time =>
          if time ≤ target then elapseTo target moments (world.moveTo time).settle
          else (world.moveTo target).settle

/-- Let so many milliseconds pass. -/
def elapse (world : World) (millis : Nat) : World :=
  elapseTo (world.now + millis * 1000000) millis world

/-- Let time pass until nothing is left to wait for or the condition holds. -/
def elapseUntil (holds : World → Bool) : (moments : Nat) → World → World
  | 0, world => world
  | moments + 1, world =>
      if holds world then world
      else
        match world.nextTick with
        | none => world
        | some time => elapseUntil holds moments (world.moveTo time).settle

end World
end Simulation
end PubSub
