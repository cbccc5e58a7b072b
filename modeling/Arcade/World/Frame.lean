import Arcade.World.Physics
import Arcade.World.Shooting
import Arcade.World.Spawning
import Arcade.World.Steering

/-! One frame of a game. Without a scene nothing happens. -/

namespace Arcade

namespace World

variable {S T : Type} [Scalar S] [Scalar T]

/-- Let time pass in the scene. -/
def advanceClock (world : World S T) (delta : T) : World S T :=
  { world with
    log := world.log.tick
    clock := world.clock.map fun clock => clock.advance delta }

/-- The alarms after a look at the clock, and how often each one fired. -/
def pollAlarms (now : T) (alarms : List (Alarm T)) : List (Alarm T × Nat) :=
  alarms.map fun alarm =>
    let (timer, fired) := alarm.timer.poll now
    ({ alarm with timer }, fired)

/-- Let the timer rules fire that are due. All clocks are read before the first rule fires. -/
def tickTimers (world : World S T) : World S T :=
  match world.clock, world.alarms with
  | some clock, some alarms =>
    let polled := pollAlarms clock.now alarms
    let due := polled.zipIdx.flatMap fun entry => List.replicate entry.1.2 entry.2
    due.foldl (fun world index => world.fire (.timer index) none)
      { world with alarms := some (polled.map (·.1)) }
  | _, _ => world

end World

/-- The parts of a frame. -/
inductive Phase where
  | clock
  | controls
  | shots
  | behaviors
  | spawners
  | timers
  | movement
  | contacts
  | dispatch
  | cleanUp
  deriving DecidableEq

/-- The parts of a frame in their order. -/
def Phase.order : List Phase :=
  [.clock, .controls, .shots, .behaviors, .spawners, .timers, .movement, .contacts, .dispatch,
    .cleanUp]

namespace World

variable {S T : Type} [Scalar S] [Scalar T] [Circular S] [Sampling S] [Rounding T S]

/-- Run one part of a frame. -/
def runPhase (keyboard : Option (List Key)) (delta : T) (world : World S T) :
    Phase → Except Crash (World S T)
  | .clock => .ok (world.advanceClock delta)
  | .controls => .ok (world.driveControls keyboard)
  | .shots => .ok world.fireShots
  | .behaviors => .ok world.runBehaviors
  | .spawners => world.tickSpawners
  | .timers => .ok world.tickTimers
  | .movement => .ok world.integrate
  | .contacts => .ok world.detect
  | .dispatch => .ok world.dispatch
  | .cleanUp => .ok world.cleanUp

/-- Run parts of a frame one after the other. -/
def runPhases (keyboard : Option (List Key)) (delta : T) (world : World S T)
    (phases : List Phase) : Except Crash (World S T) :=
  phases.foldlM (runPhase keyboard delta) world

/-- One frame of the game that is played. -/
def step (world : World S T) (keyboard : Option (List Key)) (delta : T) :
    Except Crash (World S T) :=
  match world.playing with
  | none => .ok world
  | some _ => world.runPhases keyboard delta Phase.order

end World

end Arcade
