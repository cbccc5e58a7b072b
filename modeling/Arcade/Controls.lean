import Arcade.Keyboard
import Arcade.Motion.Vec

/-! Controlled objects: their key bindings, the keys they find held, and how these drive them. -/

namespace Arcade

/-- What keys an object listens to, and how strongly it answers. -/
structure Controls (S T : Type) where
  left : Option Key
  right : Option Key
  up : Option Key
  down : Option Key
  jump : Option Key
  shoot : Option Key
  speed : S
  jumpVelocity : S
  projectile : Option (Spec.Blueprint S)
  lastShot : Option T

/-- Which bound keys are held. -/
structure Held where
  left : Bool
  right : Bool
  up : Bool
  down : Bool
  jump : Bool
  shoot : Bool

namespace Controls

variable {S T : Type} [Scalar S]

def defaultSpeed : S := 160
def defaultJump : S := 330

/-- Bind the key names of an object. Names that stand for no key bind nothing. -/
def bind (keys : KeyCache) (controls : Spec.Controls S (Spec.Blueprint S)) :
    KeyCache × Controls S T :=
  let (keys, left) := keys.resolveOption controls.left
  let (keys, right) := keys.resolveOption controls.right
  let (keys, up) := keys.resolveOption controls.up
  let (keys, down) := keys.resolveOption controls.down
  let (keys, jump) := keys.resolveOption controls.jump
  let (keys, shoot) := keys.resolveOption controls.shoot
  (keys, {
    left, right, up, down, jump, shoot
    speed := controls.speed.getD defaultSpeed
    jumpVelocity := controls.jumpVelocity.getD defaultJump
    projectile := controls.projectile
    lastShot := none })

def held (controls : Controls S T) (pressed : List Key) : Held :=
  let isHeld (key : Option Key) : Bool := key.any pressed.contains
  ⟨isHeld controls.left, isHeld controls.right, isHeld controls.up, isHeld controls.down,
    isHeld controls.jump, isHeld controls.shoot⟩

/-- The horizontal velocity under the held keys: left before right, and rest without either. An
object that maps neither key keeps its own. -/
def driveAcross (controls : Controls S T) (held : Held) (velocity : S) : S :=
  if controls.left.isSome || controls.right.isSome then
    if held.left then -controls.speed else if held.right then controls.speed else 0
  else velocity

/-- The vertical velocity under the held keys: down before up. Only an object that cannot jump
comes to rest without either, and only one on the ground jumps. -/
def driveDown (controls : Controls S T) (held : Held) (grounded : Bool) (velocity : S) : S :=
  if held.jump && grounded then -controls.jumpVelocity
  else if held.down then controls.speed
  else if held.up then -controls.speed
  else if (controls.up.isSome || controls.down.isSome) && controls.jump.isNone then 0
  else velocity

/-- The velocity under the held keys. -/
def drive (controls : Controls S T) (held : Held) (grounded : Bool) (velocity : Vec S) : Vec S :=
  ⟨controls.driveAcross held velocity.x, controls.driveDown held grounded velocity.y⟩

/-- Milliseconds between two shots. -/
def cooldown [Scalar T] : T := 200

def canShoot [Scalar T] (controls : Controls S T) (now : T) : Bool :=
  match controls.lastShot with
  | none => true
  | some last => decide (cooldown ≤ now - last)

end Controls

end Arcade
