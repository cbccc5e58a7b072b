import Arcade.Api.Request
import Arcade.Screen
import Arcade.World.Frame

/-! A world with all that reaches it from outside: a game that waits to be started, changes of the
file it came from, commands, and the screen. An update takes them in; a turn is a frame of the
game and an update after it. -/

namespace Arcade

/-- A game that waits to be started. -/
structure Pending (S : Type) where
  spec : Spec S
  options : StartOptions

/-- Contents of a changed file that wait, and how to start what is in them. -/
structure Watch where
  waiting : List String
  options : StartOptions

structure Cabinet (S T : Type) where
  world : World S T
  pending : Option (Pending S)
  watch : Option Watch
  commands : List (Api.Command S)
  screen : Option (Screen S)

namespace Watch

/-- How many changes are taken at a time. Only the latest of them counts. -/
def maxPerUpdate : Nat := 16

/-- The latest of the changes that are taken now. -/
def latest? (watch : Watch) : Option String := (watch.waiting.take maxPerUpdate).getLast?

/-- The game to start after a look at the changes. A change that is no game changes nothing. -/
def take [Scalar S] (watch : Watch) (pending : Option (Pending S)) : Watch × Option (Pending S) :=
  let rest := { watch with waiting := watch.waiting.drop maxPerUpdate }
  match watch.latest?.map (Spec.ofText (S := S)) with
  | some (.ok spec) => (rest, some ⟨spec, watch.options⟩)
  | _ => (rest, pending)

end Watch

namespace Cabinet

variable {S T : Type} [Scalar S] [Scalar T]

def new (entropy : Entropy) (watch : Option Watch) (screen : Option (Screen S)) : Cabinet S T where
  world := .empty entropy
  pending := none
  watch := watch
  commands := []
  screen := screen

/-- Switch the screen on, which takes a camera. -/
def switchOn (cabinet : Cabinet S T) : Cabinet S T :=
  match cabinet.screen with
  | none => cabinet
  | some screen =>
    if screen.camera.isSome then cabinet
    else
      let (camera, handles) := cabinet.world.handles.take
      { cabinet with
        world := { cabinet.world with handles }
        screen := some { screen with camera := some camera } }

/-- Start the game that waits, if it can be started. -/
def startPending (cabinet : Cabinet S T) : Cabinet S T :=
  match cabinet.pending with
  | none => cabinet
  | some pending =>
    { cabinet with
      world := (cabinet.world.tryStart pending.spec pending.options).1
      pending := none }

/-- Serve commands. -/
def serve (cabinet : Cabinet S T) : Cabinet S T × List (Api.Reply S T) :=
  let served := Api.pump cabinet.world cabinet.commands
  ({ cabinet with world := served.world, commands := served.waiting }, served.replies)

/-- Look at the changes of the file. What they bring waits for the next update. -/
def lookForChanges (cabinet : Cabinet S T) : Cabinet S T :=
  match cabinet.watch with
  | none => cabinet
  | some watch =>
    let (watch, pending) := watch.take cabinet.pending
    { cabinet with watch := some watch, pending }

/-- Show the world. -/
def display (cabinet : Cabinet S T) : Except Crash (Cabinet S T) := do
  match cabinet.screen with
  | none => .ok cabinet
  | some screen =>
    let screen := match cabinet.world.spec with
      | some spec => screen.showing spec
      | none => screen
    let world ← cabinet.world.draw screen.pictures
    .ok { cabinet with world, screen := some screen }

/-- One update, and the replies to the commands it served. What is shown is the world before the
commands; the game that waits starts after them, and a change of the file waits for the next
update. -/
def update (cabinet : Cabinet S T) : Except Crash (Cabinet S T × List (Api.Reply S T)) := do
  let (served, replies) := (← cabinet.switchOn.display).serve
  .ok (served.startPending.lookForChanges, replies)

/-- Insert a game that waits to be started. -/
def insert (cabinet : Cabinet S T) (spec : Spec S) (options : StartOptions) : Cabinet S T :=
  { cabinet with pending := some ⟨spec, options⟩ }

/-- Let a command wait to be served. -/
def send (cabinet : Cabinet S T) (command : Api.Command S) : Cabinet S T :=
  { cabinet with commands := cabinet.commands ++ [command] }

/-- Take in a request over the network: the guard after it, and the answer if it is given at once.
Otherwise a command waits in its place. -/
def receive (cabinet : Cabinet S T) (guard : Api.Guard) (request : Api.Request) (now : Nat) :
    Cabinet S T × Api.Guard × Option (Api.Response S T) :=
  match Api.receive guard request now with
  | (guard, .done response) => (cabinet, guard, some response)
  | (guard, .ask command) => (cabinet.send command, guard, none)

/-- Tell of a change of the file, if changes are watched. -/
def noteChange (cabinet : Cabinet S T) (contents : String) : Cabinet S T :=
  { cabinet with
    watch := cabinet.watch.map fun watch => { watch with waiting := watch.waiting ++ [contents] } }

/-- One frame of the game and one update. -/
def turn [Circular S] [Sampling S] [Rounding T S] (cabinet : Cabinet S T)
    (keyboard : Option (List Key)) (delta : T) :
    Except Crash (Cabinet S T × List (Api.Reply S T)) := do
  let world ← cabinet.world.step keyboard delta
  { cabinet with world }.update

end Cabinet

end Arcade
