import Arcade.World.Play

/-! Controlled actors: their velocities follow the held keys, and they shoot. -/

namespace Arcade.World

variable {S T : Type} [Scalar S] [Scalar T]

/-- Whether an actor asks for a shot now. -/
def triggers (pressed : List Key) (now : T) (actor : Actor S T) : Bool :=
  actor.movable && actor.controls.any fun controls =>
    (controls.held pressed).shoot && controls.projectile.isSome && controls.canShoot now

/-- An actor under the held keys. -/
def driven (pressed : List Key) (now : T) (actor : Actor S T) : Actor S T :=
  match actor.body, actor.controls with
  | some body, some controls =>
    if body.movable then
      let velocity := controls.drive (controls.held pressed) body.grounded body.velocity
      let lastShot := if triggers pressed now actor then some now else controls.lastShot
      { actor with
        body := some { body with velocity }
        controls := some { controls with lastShot } }
    else actor
  | _, _ => actor

/-- The shot that an actor asks for. -/
def shot? (pressed : List Key) (now : T) (actor : Actor S T) : Option (Shot S) :=
  if triggers pressed now actor then some ⟨actor.handle, actor.id, actor.position⟩ else none

/-- Drive all controlled actors. Without a keyboard nothing is driven. -/
def driveControls (world : World S T) (keyboard : Option (List Key)) : World S T :=
  match keyboard, world.clock, world.shots with
  | some pressed, some clock, some shots =>
    let asked := world.roster.actors.filterMap (shot? pressed clock.now)
    { world with
      roster := world.roster.map (driven pressed clock.now)
      shots := some (shots ++ asked) }
  | _, _, _ => world

/-- The id of a shot. -/
def shotId (owner : String) (number : Nat) : String :=
  owner ++ "_projectile_" ++ toString number

/-- Make one shot, if its owner is still there to make it. -/
def shootOne (world : World S T) (shot : Shot S) : World S T :=
  let template? := (world.roster.find? shot.owner).bind fun actor =>
    actor.controls.bind (·.projectile)
  match template? with
  | none => world
  | some template =>
    let number := (world.registry.getD .empty).shotCount shot.ownerId
    let world := world.withRegistry fun registry => registry.countShot shot.ownerId
    match world.create template (shotId shot.ownerId number) shot.origin with
    | .ok (.actor handle, made) => made.adopt handle projectileGroup
    | .ok (.group _, made) => made
    | .error error =>
      world.report (.templateNotSpawnable (shot.ownerId ++ ":projectile") error.message)

/-- Make all shots that were asked for. -/
def fireShots (world : World S T) : World S T :=
  match world.shots with
  | none => world
  | some shots => shots.foldl shootOne { world with shots := some [] }

end Arcade.World
