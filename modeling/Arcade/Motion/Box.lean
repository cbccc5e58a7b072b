import Arcade.Motion.Vec

/-! Boxes along the axes: whether two overlap, and how to push them apart. -/

namespace Arcade

/-- A box around its center. -/
structure Box (S : Type) where
  center : Vec S
  half : Vec S

namespace Box

variable {S : Type} [Scalar S]

def ofSize (center size : Vec S) : Box S := ⟨center, size.halved⟩

def low (box : Box S) : Vec S := box.center - box.half
def high (box : Box S) : Vec S := box.center + box.half

/-- Boxes that only touch do not overlap. -/
def overlaps (a b : Box S) : Bool :=
  let distance := (b.center - a.center).abs
  decide (distance.x < a.half.x + b.half.x) && decide (distance.y < a.half.y + b.half.y)

/-- How far two boxes reach into each other along each axis. -/
def penetration (a b : Box S) : Vec S := a.half + b.half - (b.center - a.center).abs

/-- The parts of a push that two bodies take, which only movable ones do. -/
def shares? (aMovable bMovable : Bool) : Option (S × S) :=
  match aMovable, bMovable with
  | true, true => some (1 / 2, 1 / 2)
  | true, false => some (1, 0)
  | false, true => some (0, 1)
  | false, false => none

/-- The direction along an axis that leads away from something at a distance. -/
def away (distance : S) : S := if 0 < distance then -1 else 1

/-- The push that takes the first of two overlapping boxes out of the second, along the axis where
they reach less far into each other. -/
def push (a b : Box S) : Vec S :=
  let distance := b.center - a.center
  let depth := penetration a b
  if depth.x < depth.y then ⟨away distance.x * depth.x, 0⟩ else ⟨0, away distance.y * depth.y⟩

/-- The displacements that push two boxes apart. -/
def separate (a b : Box S) (aMovable bMovable : Bool) : Option (Vec S × Vec S) :=
  match shares? aMovable bMovable with
  | none => none
  | some (aShare, bShare) =>
    let depth := penetration a b
    if depth.x ≤ 0 ∨ depth.y ≤ 0 then none
    else
      let push := push a b
      some (push.scale aShare, (-push).scale bShare)

end Box

end Arcade
