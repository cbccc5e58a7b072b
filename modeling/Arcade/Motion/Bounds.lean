import Arcade.Motion.Vec

/-! Keeping a box inside the world. A box that sticks out is put back to the wall, and a velocity
that led out is turned around. -/

namespace Arcade.Bounds

variable {S : Type} [Scalar S]

/-- A velocity after a wall on the low side. -/
def reboundLow (velocity bounce : S) : S :=
  if velocity < 0 then -velocity * bounce else velocity

/-- A velocity after a wall on the high side. -/
def reboundHigh (velocity bounce : S) : S :=
  if 0 < velocity then -velocity * bounce else velocity

/-- Place and velocity along the horizontal axis. -/
def resolveAcross (center velocity half limit bounce : S) : S × S :=
  if center - half < 0 then (half, reboundLow velocity bounce)
  else if limit < center + half then (limit - half, reboundHigh velocity bounce)
  else (center, velocity)

/-- Place and velocity along the vertical axis, and whether the box is on the floor. -/
def resolveDown (center velocity half limit bounce : S) : S × S × Bool :=
  if center - half < 0 then (half, reboundLow velocity bounce, false)
  else if limit ≤ center + half then (limit - half, reboundHigh velocity bounce, true)
  else (center, velocity, false)

/-- A box after the walls. -/
structure Outcome (S : Type) where
  center : Vec S
  velocity : Vec S
  grounded : Bool

def resolve (center velocity half limits : Vec S) (bounce : S) : Outcome S :=
  let (x, vx) := resolveAcross center.x velocity.x half.x limits.x bounce
  let (y, vy, grounded) := resolveDown center.y velocity.y half.y limits.y bounce
  ⟨⟨x, y⟩, ⟨vx, vy⟩, grounded⟩

end Arcade.Bounds
