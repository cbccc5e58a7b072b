import Arcade.World.Play

/-! What may be asked of a running world from outside, and the answers. Requests wait in a queue; of
those that wait a limited number is served at a time, first come first served. -/

namespace Arcade.Api

inductive Command (S : Type) where
  | start (spec : Spec S) (options : StartOptions)
  | stop
  | status
  | spec
  | events (since : Option Nat) (name : Option String)

/-- How a game stands. -/
structure Status (T : Type) where
  running : Bool
  title : Option String
  scene : Option String
  generation : Option Nat
  score : Int
  ended : Bool
  objects : Nat
  elapsed : T
  diagnostics : List String

inductive Reply (S T : Type) where
  | started (outcome : Except StartError Session)
  | stopped (running : Bool)
  | status (status : Status T)
  | spec (spec : Option (Spec S))
  | events (events : List (Event Signal))

variable {S T : Type} [Scalar S] [Scalar T]

/-- The status without a game. -/
def Status.idle : Status T := ⟨false, none, none, none, 0, false, 0, 0, []⟩

def status (world : World S T) : Status T :=
  match world.session? with
  | none => .idle
  | some session =>
    let board := world.board.getD .start
    { running := true
      title := some session.title
      scene := some session.scene
      generation := some session.generation
      score := board.score
      ended := board.ended
      objects := (world.registry.map (·.objectCount)).getD 0
      elapsed := (world.clock.map (·.now)).getD 0
      diagnostics := world.diagnostics.getD [] }

/-- Stop the game that is played, and tell whether there was one. -/
def stopCurrent (world : World S T) : World S T × Bool :=
  match world.session? with
  | some session => (world.stop session, true)
  | none => (world, false)

/-- Events of a name since a frame; no name and no frame let all through. -/
def events (world : World S T) (since : Option Nat) (name : Option String) :
    List (Event Signal) :=
  world.log.select since fun signal => name.all fun name => signal.name = name

/-- Serve one command. -/
def serve (world : World S T) : Command S → World S T × Reply S T
  | .start spec options =>
    let (world, outcome) := world.tryStart spec options
    (world, .started outcome)
  | .stop =>
    let (world, stopped) := stopCurrent world
    (world, .stopped stopped)
  | .status => (world, .status (status world))
  | .spec => (world, .spec world.spec)
  | .events since name => (world, .events (events world since name))

/-- Serve commands in order. -/
def serveAll (world : World S T) : List (Command S) → World S T × List (Reply S T)
  | [] => (world, [])
  | command :: rest =>
    let (world, reply) := serve world command
    let (world, replies) := serveAll world rest
    (world, reply :: replies)

/-- How many commands are served at a time. -/
def maxPerUpdate : Nat := 32

/-- What one update does to the commands that wait. -/
structure Served (S T : Type) where
  world : World S T
  waiting : List (Command S)
  replies : List (Reply S T)

def pump (world : World S T) (waiting : List (Command S)) : Served S T :=
  let (world, replies) := serveAll world (waiting.take maxPerUpdate)
  ⟨world, waiting.drop maxPerUpdate, replies⟩

end Arcade.Api
