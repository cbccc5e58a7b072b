import Arcade.World.Effect
import Arcade.Spec.Validate

/-! Starting and stopping games. A game that cannot be started leaves the world as it is. -/

namespace Arcade

/-- The scene to start with, the first one if none is named, and the seed of its random numbers. -/
structure StartOptions where
  scene : Option String
  seed : Option Nat

def StartOptions.default : StartOptions := ⟨none, none⟩

/-- The scene that options choose. -/
def Spec.choose (spec : Spec S) (scene : Option String) : Except StartError (Spec.Scene S) :=
  match scene with
  | some name =>
    match spec.scene? name with
    | some scene => .ok scene
    | none => .error (.unknownScene name)
  | none =>
    match spec.scenes with
    | scene :: _ => .ok scene
    | [] => .error (.spec .noScenes)

namespace World

variable {S T : Type} [Scalar S] [Scalar T]

def projectileGroup : String := "projectiles"

/-- The world after its game, its names and its actors left. The names go first, so that the actors
leave without a word. -/
def vacate (world : World S T) : World S T :=
  let nameless := { world with playing := none, registry := none }
  (nameless.roster.actors.map (·.handle)).foldl destroy nameless

/-- Take out what else belongs to a scene. -/
def strip (world : World S T) : World S T :=
  { world with
    bindings := none
    alarms := none
    nests := none
    shots := none
    contacts := none
    library := none
    board := none
    diagnostics := none
    clock := none
    arena := none
    manifest := none
    random := none
    spec := none }

/-- End the scene that is played. -/
def tearDown (world : World S T) : World S T :=
  match world.playing with
  | none => world
  | some session =>
    world.vacate.strip.emit (.gameStopped session.scene session.generation) none

/-- Make an object of the scene at its place. -/
def placeObject (world : World S T) (object : Spec.Blueprint S) : World S T :=
  match world.create object object.id ⟨object.x, object.y⟩ with
  | .ok (_, made) => made
  | .error error => world.report error

/-- Set a spawner to work. Its copies have a group from the start. -/
def placeSpawner (world : World S T) (spawner : Spec.Spawner S) : World S T :=
  let grouped := world.withRegistry fun registry => registry.ensureGroup spawner.template.id
  { grouped with nests := grouped.nests.map (· ++ [.start spawner 0]) }

def shoots (object : Spec.Blueprint S) : Bool :=
  object.controls.any fun controls => controls.projectile.isSome

/-- Bind an interaction rule to what is there now. -/
def placeInteraction (kind : Contact.Kind) (world : World S T) (line : String) : World S T :=
  match (world.registry.getD .empty).bind kind line with
  | .ok binding => { world with bindings := world.bindings.map (· ++ [binding]) }
  | .error error => world.report error

def placeTimer (world : World S T) (line : String) : World S T :=
  match Rule.Schedule.parse line with
  | .ok rule => { world with alarms := world.alarms.map (· ++ [.start rule line 0]) }
  | .error error => world.report error

/-- Build a scene: actions, objects, spawners, the group of shots, rules about collisions, rules
about overlaps, timers. -/
def build (world : World S T) (scene : Spec.Scene S) : World S T :=
  let logic := scene.logic.getD .empty
  let world := { world with library := some (libraryOf (logic.actions.getD [])) }
  let world := scene.objects.foldl placeObject world
  let world := (logic.spawners.getD []).foldl placeSpawner world
  let world :=
    if scene.objects.any shoots then
      world.withRegistry fun registry => registry.ensureGroup projectileGroup
    else world
  let world := (logic.onCollision.getD []).foldl (placeInteraction .collision) world
  let world := (logic.onOverlap.getD []).foldl (placeInteraction .overlap) world
  (logic.timers.getD []).foldl placeTimer world

/-- What the random numbers of the next game start from. -/
def generator (world : World S T) (seed : Option Nat) : Random :=
  .ofOption (world.entropy (world.starts + 1)) seed

/-- The world with the parts of a scene in which nothing is yet. The actions of the scene come when
it is built. -/
def setUp (world : World S T) (spec : Spec S) (seed : Option Nat) : World S T :=
  { world with
    births := []
    cradles := []
    starts := world.starts + 1
    registry := some .empty
    diagnostics := some []
    clock := some .start
    arena := some (.ofSettings spec.settings)
    board := some .start
    manifest := some (.ofAssets spec.assets)
    shots := some []
    contacts := some []
    bindings := some []
    alarms := some []
    nests := some []
    random := some (world.generator seed)
    spec := some spec }

/-- Play a scene in place of the one that is played. -/
def playScene (world : World S T) (spec : Spec S) (scene : Spec.Scene S) (seed : Option Nat) :
    Session × World S T :=
  let ready := world.tearDown.setUp spec seed
  let session : Session := ⟨ready.starts, scene.name, spec.title⟩
  (session, { ready.build scene with playing := some session }.emit
    (.gameStarted session.title session.scene session.generation) none)

/-- Try to start a game. The world is the one that the attempt leaves behind, also when it failed. -/
def tryStart (world : World S T) (spec : Spec S) (options : StartOptions) :
    World S T × Except StartError Session :=
  match spec.validate with
  | .error error => (world, .error (.spec error))
  | .ok () =>
    match spec.choose options.scene with
    | .error error => (world, .error error)
    | .ok scene =>
      let (session, started) := world.playScene spec scene options.seed
      (started, .ok session)

/-- The game and the world after a start that went well. -/
def start (world : World S T) (spec : Spec S) (options : StartOptions) :
    Except StartError (Session × World S T) :=
  let (started, outcome) := world.tryStart spec options
  outcome.map fun session => (session, started)

/-- The game that is played. -/
def session? (world : World S T) : Option Session := world.playing

/-- Stop a game, if it is the one that is played. -/
def stop (world : World S T) (session : Session) : World S T :=
  match world.session? with
  | some current =>
    if current.generation = session.generation then world.tearDown else world
  | none => world

end World

end Arcade
