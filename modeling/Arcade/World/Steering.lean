import Arcade.Behavior
import Arcade.World.Play

/-! Behaviors at work: each id that has one, in the order of the ids, steers the actor it means. -/

namespace Arcade.World

variable {S T : Type} [Scalar S] [Scalar T] [Circular S] [Sampling S] [Rounding T S]

/-- What a behavior sees and changes: the velocity of its actor, its memory and the random
numbers. -/
structure Steering (S T : Type) where
  velocity : Vec S
  memory : Option (Memory S T)
  random : Random

namespace Steering

/-- Patrol around the place where the patrol began. -/
def patrol (steering : Steering S T) (position : Vec S) (parameters : Json) : Steering S T :=
  let memory := steering.memory.getD .blank
  let anchor := memory.anchor.getD position.x
  let range := (Behavior.length? parameters "range").getD Behavior.patrolRange
  let speed := (Behavior.length? parameters "speed").getD Behavior.patrolSpeed
  { steering with
    velocity := ⟨Behavior.patrol position.x steering.velocity.x anchor range speed,
      steering.velocity.y⟩
    memory := some { memory with anchor := some anchor } }

/-- Follow a target, if it is there. -/
def pursue (steering : Steering S T) (position : Vec S) (target : Option (Vec S))
    (parameters : Json) : Steering S T :=
  match target with
  | none => steering
  | some target =>
    let speed := (Behavior.length? parameters "speed").getD Behavior.followSpeed
    { steering with velocity := Behavior.pursuit position target speed }

/-- Milliseconds between two directions of a behavior. -/
def wanderInterval (parameters : Json) : T :=
  let length : Option S := (Behavior.length? parameters "interval").or
    (Behavior.length? parameters "change_interval")
  match length with
  | some interval => Rounding.fine interval
  | none => Behavior.wanderInterval

/-- Take a random direction when it is time to. -/
def wander (steering : Steering S T) (now : T) (parameters : Json) : Steering S T :=
  let memory := steering.memory.getD .blank
  let interval : T := wanderInterval (S := S) parameters
  if Behavior.changeDue memory.lastChange now interval then
    let speed := (Behavior.length? parameters "speed").getD Behavior.wanderSpeed
    let (angle, random) : S × Random := steering.random.angle
    { velocity := Behavior.heading angle speed
      memory := some { memory with lastChange := some now }
      random }
  else { steering with memory := some memory }

end Steering

/-- The name of the object that a behavior follows. -/
def followed (parameters : Json) : String :=
  (Behavior.word? parameters "target").getD Behavior.followTarget

/-- Where an id is. -/
def whereabouts (world : World S T) (id : String) : Option (Vec S) :=
  (world.handle? id).bind fun handle => (world.roster.find? handle).map (·.position)

/-- What a behavior makes of what it sees. -/
def steered (world : World S T) (now : T) (assignment : Assignment) (position : Vec S)
    (steering : Steering S T) : Steering S T :=
  match assignment.kind with
  | .static => steering
  | .patrol => steering.patrol position assignment.parameters
  | .follow =>
    steering.pursue position (world.whereabouts (followed assignment.parameters))
      assignment.parameters
  | .random => steering.wander now assignment.parameters

/-- Let one behavior steer. Only movable bodies are steered. -/
def steer (world : World S T) (entry : String × Assignment) : World S T :=
  let (id, assignment) := entry
  let steering? := do
    let clock ← world.clock
    let registry ← world.registry
    let random ← world.random
    let handle ← registry.handle? id
    let actor ← world.roster.find? handle
    let body ← actor.body
    if body.movable then
      let steering := world.steered clock.now assignment actor.position
        ⟨body.velocity, registry.memories.get? id, random⟩
      some (handle, steering)
    else none
  match steering? with
  | none => world
  | some (handle, steering) =>
    let world := { world with
      roster := world.roster.modify handle (·.withVelocity steering.velocity)
      random := some steering.random }
    match steering.memory with
    | some memory => world.withRegistry fun registry => registry.remember id memory
    | none => world

/-- Let all behaviors steer. -/
def runBehaviors (world : World S T) : World S T :=
  match world.registry with
  | some registry => registry.behaviors.entries.foldl steer world
  | none => world

end Arcade.World
