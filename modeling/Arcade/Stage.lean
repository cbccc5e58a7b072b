import Arcade.Manifest
import Arcade.Random
import Arcade.Rule.Binding
import Arcade.Timer

/-! The parts of a scene that is being played: its world's extent, its clock, its rules, and what is still
to be done in the current frame. -/

namespace Arcade

/-- A started game, as its callers know it. -/
structure Session where
  generation : Nat
  scene : String
  title : String
  deriving DecidableEq

/-- Milliseconds since the scene started, and those of the last frame. -/
structure Clock (T : Type) where
  now : T
  delta : T

/-- The space of a scene. Bodies move and meet while it is enabled and not paused. -/
structure Arena (S : Type) where
  extent : Vec S
  gravity : Vec S
  enabled : Bool
  paused : Bool
  debug : Bool

/-- A shot that was asked for. -/
structure Shot (S : Type) where
  owner : Handle
  ownerId : String
  origin : Vec S

/-- Two actors that met under a binding, given by its position. -/
structure Contact where
  binding : Nat
  first : Handle
  second : Handle
  deriving DecidableEq

/-- A timer rule at work. -/
structure Alarm (T : Type) where
  rule : Rule.Schedule
  line : String
  timer : Timer T
  /-- Its callback was found to mean nothing. -/
  warned : Bool

/-- A spawner at work. -/
structure Nest (S T : Type) where
  spawner : Spec.Spawner S
  timer : Timer T

namespace Arena

variable {S : Type} [Scalar S]

def running (arena : Arena S) : Bool := arena.enabled && !arena.paused

/-- Let nothing move any more. -/
def pause (arena : Arena S) : Arena S := { arena with paused := true }

def ofSettings (settings : Spec.Settings S) : Arena S where
  extent := ⟨Scalar.ofNat settings.width, Scalar.ofNat settings.height⟩
  gravity := settings.physics.gravity
  enabled := settings.physics.enabled
  paused := false
  debug := settings.physics.debug

end Arena

namespace Clock

variable {T : Type} [Scalar T]

def start : Clock T := ⟨0, 0⟩

def advance (clock : Clock T) (delta : T) : Clock T := ⟨clock.now + delta, delta⟩

/-- A time of whole nanoseconds in milliseconds. -/
def milliseconds (nanoseconds : Nat) : T :=
  let second : Nat := 1000000000
  (Scalar.ofNat (nanoseconds / second) + Scalar.ofNat (nanoseconds % second) / Scalar.ofNat second) *
    1000

end Clock

namespace Alarm

variable {T : Type} [Scalar T]

def start (rule : Rule.Schedule) (line : String) (now : T) : Alarm T :=
  ⟨rule, line, .start (rule.cadence = .every) rule.interval now, false⟩

end Alarm

def Nest.start [Scalar T] (spawner : Spec.Spawner S) (now : T) : Nest S T :=
  ⟨spawner, .every spawner.interval now⟩

end Arcade
