import Arcade.Event
import Arcade.Roster
import Arcade.Stage

/-! A world: its actors, the names they go by, and the parts of the scene that is played in it, if
there is one. The parts are put in one by one when a scene starts and are taken out one by one when
it ends; names, diagnostics, the score and random numbers also come into being when they are first
needed. -/

namespace Arcade

structure Board where
  score : Int
  ended : Bool
  deriving DecidableEq

def Board.start : Board := ⟨0, false⟩

/-- The making of an actor. -/
structure Birth (S : Type) where
  handle : Handle
  id : String
  blueprint : Spec.Blueprint S

structure World (S T : Type) where
  handles : Handles
  roster : Roster S T
  /-- Every actor that was made for the scene, latest first. Nothing that happens depends on it. -/
  births : List (Birth S)
  /-- Where each of them was made, latest first. Nothing that happens depends on it. -/
  cradles : List (Handle × Vec S)
  keys : KeyCache
  log : Log Signal
  /-- How many games were started. -/
  starts : Nat
  /-- What games without a seed are given. Nothing changes it. -/
  entropy : Entropy
  /-- The game that is played. -/
  playing : Option Session
  registry : Option (Registry S T)
  /-- Messages of what could not be built, latest last. -/
  diagnostics : Option (List String)
  clock : Option (Clock T)
  arena : Option (Arena S)
  board : Option Board
  manifest : Option Manifest
  shots : Option (List (Shot S))
  contacts : Option (List Contact)
  bindings : Option (List Binding)
  alarms : Option (List (Alarm T))
  nests : Option (List (Nest S T))
  random : Option Random
  /-- The game that the scene is from. -/
  spec : Option (Spec S)
  library : Option (Index Spec.Effect)

namespace World

variable {S T : Type}

/-- A world in which nothing was started. -/
def empty (entropy : Entropy) : World S T where
  handles := .start
  roster := .empty
  births := []
  cradles := []
  keys := .empty
  log := .empty
  starts := 0
  entropy := entropy
  playing := none
  registry := none
  diagnostics := none
  clock := none
  arena := none
  board := none
  manifest := none
  shots := none
  contacts := none
  bindings := none
  alarms := none
  nests := none
  random := none
  spec := none
  library := none

/-- The diagnostics that are kept. -/
def maxDiagnostics : Nat := 200

def alive (world : World S T) (handle : Handle) : Bool := world.roster.contains handle

def emit (world : World S T) (signal : Signal) (source : Option Handle) : World S T :=
  { world with log := world.log.emit signal source }

/-- Change the names, of which there are none at first. -/
def withRegistry (world : World S T) (change : Registry S T → Registry S T) : World S T :=
  { world with registry := some (change (world.registry.getD .empty)) }

/-- The actor that an id means. -/
def handle? (world : World S T) (id : String) : Option Handle :=
  world.registry.bind fun registry => registry.handle? id

/-- Tell of something that could not be built. -/
def report (world : World S T) (error : BuildError) : World S T :=
  let messages := world.diagnostics.getD []
  let kept := messages.drop (messages.length + 1 - maxDiagnostics)
  { world.emit (.diagnostic error.message) none with
    diagnostics := some (kept ++ [error.message]) }

/-- Remove an actor and, as long as there are names, all that goes by its name. -/
def destroy (world : World S T) (handle : Handle) : World S T :=
  match world.roster.find? handle with
  | none => world
  | some actor =>
    let removed := { world with
      roster := world.roster.remove handle
      handles := world.handles.release handle }
    match world.registry with
    | none => removed
    | some registry =>
      { removed with registry := some (registry.forget actor.id handle actor.group) }.emit
        (.objectDestroyed actor.id actor.group) (some handle)

/-- Make an actor a member of a group and a transient copy. -/
def adopt (world : World S T) (handle : Handle) (group : String) : World S T :=
  match world.roster.find? handle with
  | none => world
  | some actor =>
    let marked := { world with
      roster := world.roster.update handle fun actor =>
        { actor with group := some group, transient := true } }
    (marked.withRegistry fun registry => registry.joinGroup group handle).emit
      (.objectSpawned actor.id group) (some handle)

/-- Change the text of a live text object; none when the id is none. -/
def setText? (world : World S T) (id text : String) : Option (World S T) := do
  let handle ← world.handle? id
  let actor ← world.roster.find? handle
  if actor.text.isSome then
    some { world with
      roster := world.roster.modify handle fun actor =>
        { actor with text := some text, rewritten := true } }
  else none

end World

end Arcade
