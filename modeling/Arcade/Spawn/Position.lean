import Arcade.Motion.Vec
import Arcade.Random

/-! Where the copies of a spawner appear: on an edge of the world, anywhere in it, or within the
ranges the spawner gives. -/

namespace Arcade.Spawn

variable {R S : Type} [Scalar S] [Generator R S]

/-- The part of the world that a name stands for. -/
inductive Area where
  | top
  | bottom
  | left
  | right
  | anywhere
  | origin
  deriving DecidableEq

def Area.ofName (name : String) : Area :=
  match name with
  | "top" => .top
  | "bottom" => .bottom
  | "left" => .left
  | "right" => .right
  | "random" => .anywhere
  | _ => .origin

/-- A place of an area of the world. -/
def Area.draw (area : Area) (extent : Vec S) (random : R) : Except Crash (Vec S × R) := do
  match area with
  | .top =>
    let (x, random) ← Generator.between random 0 extent.x
    .ok (⟨x, 0⟩, random)
  | .bottom =>
    let (x, random) ← Generator.between random 0 extent.x
    .ok (⟨x, extent.y⟩, random)
  | .left =>
    let (y, random) ← Generator.between random 0 extent.y
    .ok (⟨0, y⟩, random)
  | .right =>
    let (y, random) ← Generator.between random 0 extent.y
    .ok (⟨extent.x, y⟩, random)
  | .anywhere =>
    let (x, random) ← Generator.between random 0 extent.x
    let (y, random) ← Generator.between random 0 extent.y
    .ok (⟨x, y⟩, random)
  | .origin => .ok (.zero, random)

/-- A place whose coordinates are drawn again from the ranges that are given. -/
def vary (variance : Spec.Variance S) (place : Vec S) (random : R) :
    Except Crash (Vec S × R) := do
  let (x, random) ← Generator.between random variance.xMin variance.xMax
  match variance.yMin, variance.yMax with
  | some yMin, some yMax =>
    let (y, random) ← Generator.between random yMin yMax
    .ok (⟨x, y⟩, random)
  | _, _ => .ok (⟨x, place.y⟩, random)

/-- Where the next copy appears. -/
def position (area : String) (variance : Option (Spec.Variance S)) (extent : Vec S)
    (random : R) : Except Crash (Vec S × R) := do
  let (place, random) ← (Area.ofName area).draw extent random
  match variance with
  | some variance => vary variance place random
  | none => .ok (place, random)

end Arcade.Spawn
