import Arcade.Spawn.Position
import Arcade.World.Play

/-! Spawners at work: each firing of a spawner makes one copy of its template, until its number is
reached or the template turns out to make no actor. -/

namespace Arcade.World

variable {S T : Type} [Scalar S] [Scalar T] [Sampling S]

/-- The id of a copy. -/
def copyId (spawner : String) (number : Nat) : String :=
  spawner ++ "_spawned_" ++ toString number

/-- Draw the place of the next copy. -/
def drawPlace (world : World S T) (spawner : Spec.Spawner S) :
    Except Crash (Vec S × World S T) := do
  let extent := (world.arena.map (·.extent)).getD .zero
  let (place, random) ←
    Spawn.position spawner.area spawner.variance extent
      (world.random.getD (world.entropy world.starts))
  .ok (place, { world with random := some random })

/-- Whether a spawner has made all its copies. -/
def exhausted (spawner : Spec.Spawner S) (count : Nat) : Bool :=
  spawner.maxCount.any fun most => decide (most ≤ count)

/-- Make one copy. False tells that the spawner is done. -/
def spawnOne (world : World S T) (spawner : Spec.Spawner S) : Except Crash (World S T × Bool) := do
  let count := (world.registry.getD .empty).copyCount spawner.id
  if exhausted spawner count then .ok (world, false)
  else
    let (place, world) ← world.drawPlace spawner
    match world.create spawner.template (copyId spawner.id count) place with
    | .ok (.actor handle, made) =>
      let adopted := made.adopt handle spawner.template.id
      .ok (adopted.withRegistry fun registry => registry.countCopy spawner.id, true)
    | .ok (.group _, made) =>
      .ok (made.report (.templateNotSpawnable spawner.id "group templates have no entity"), false)
    | .error error =>
      .ok (world.report (.templateNotSpawnable spawner.id error.message), false)

/-- Make a number of copies. False tells that the spawner is done. -/
def spawnMany (spawner : Spec.Spawner S) : Nat → World S T → Except Crash (World S T × Bool)
  | 0, world => .ok (world, true)
  | rest + 1, world => do
    let (world, more) ← world.spawnOne spawner
    if more then spawnMany spawner rest world else .ok (world, false)

/-- Let one spawner make what is due. -/
def tickNest (world : World S T) (nest : Nest S T) (now : T) :
    Except Crash (World S T × Nest S T) := do
  let (timer, fired) := nest.timer.poll now
  let (world, more) ← spawnMany nest.spawner fired world
  .ok (world, { nest with timer := if more then timer else timer.cancel })

/-- Let spawners make what is due, one after the other. -/
def tickNests (now : T) : List (Nest S T) → World S T → Except Crash (World S T × List (Nest S T))
  | [], world => .ok (world, [])
  | nest :: rest, world => do
    let (world, nest) ← world.tickNest nest now
    let (world, others) ← tickNests now rest world
    .ok (world, nest :: others)

def tickSpawners (world : World S T) : Except Crash (World S T) :=
  match world.nests, world.clock with
  | some nests, some clock => do
    let (world, nests) ← tickNests clock.now nests world
    .ok { world with nests := some nests }
  | _, _ => .ok world

/-- How far a copy may drift past the edge of the world. -/
def driftMargin : S := 100

/-- Whether a box is entirely beyond the margin around the world. -/
def outside (extent : Vec S) (box : Box S) : Bool :=
  decide (box.high.x < -driftMargin) || decide (box.high.y < -driftMargin) ||
    decide (extent.x + driftMargin < box.low.x) || decide (extent.y + driftMargin < box.low.y)

/-- Remove the transient actors that left the world. -/
def cleanUp (world : World S T) : World S T :=
  match world.arena with
  | none => world
  | some arena =>
    let gone := world.roster.actors.filter fun actor =>
      actor.transient && outside arena.extent actor.box
    (gone.map (·.handle)).foldl destroy world

end Arcade.World
