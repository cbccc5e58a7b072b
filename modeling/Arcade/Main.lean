import Arcade.Cabinet
import Arcade.Launch

/-! The command line: it settles how to launch, loads the game and plays it turn by turn, without
window or keyboard, until the game cannot go on. -/

namespace Arcade.Main

/-- A line of the program. -/
def announced (line : String) : String := "[Playspec] " ++ line

/-- Why a file cannot be read, in the words of the system. -/
def reason (error : IO.Error) : String :=
  match error with
  | .noFileOrDirectory .. => "No such file or directory (os error 2)"
  | .permissionDenied .. => "Permission denied (os error 13)"
  | .inappropriateType .. => "Is a directory (os error 21)"
  | other => toString other

/-- The contents of a file, or why it cannot be read. -/
def contents (path : String) : IO (Except String String) := do
  try
    let text ← IO.FS.readFile path
    return .ok text
  catch error => return .error (reason error)

/-- The settings of the startup file, which need not be there. -/
def loadStartup : IO Startup := do
  let path := Startup.path (← IO.getEnv Startup.pathVariable)
  match ← contents path with
  | .error _ => return .default
  | .ok text =>
    match Startup.parse text with
    | .ok startup =>
      IO.println (announced ("Loaded startup config from " ++ path))
      return startup
    | .error error =>
      IO.eprintln (announced ("Failed to parse " ++ path ++ ": " ++ error.message))
      return .default

/-- The variables of the environment that bear on a launch. -/
def environment : IO (String → Option String) := do
  let values ← Launch.variableNames.mapM fun name => return (name, ← IO.getEnv name)
  return fun name => (lookup? name values).join

/-- Nanoseconds of a turn, of which there are sixty in a second. -/
def turnLength : Nat := 16666667

/-- Play for ever. Changes of the file are passed on when they are watched. -/
partial def play (launch : Launch) (text : String) (cabinet : Cabinet Float32 Float) :
    IO UInt32 := do
  match cabinet.turn none (Clock.milliseconds turnLength) with
  | .error crash =>
    IO.eprintln (announced crash.message)
    return 101
  | .ok (cabinet, _) =>
    IO.sleep (turnLength / 1000000).toUInt32
    let found ← if launch.watch then contents launch.specPath else pure (.ok text)
    match found with
    | .ok found =>
      play launch found (if found = text then cabinet else cabinet.noteChange found)
    | .error _ => play launch text cabinet

/-- What games without a seed are given: states that follow from a number of the system. -/
def entropy : IO Entropy := do
  let drawn ← IO.rand 0 Text.maxWord64
  return fun number => .ofSeed (UInt64.ofNat (drawn + number))

/-- Load the game of a launch and play it. -/
def run (launch : Launch) : IO UInt32 := do
  let found ← contents launch.specPath
  match launch.load found with
  | .error error =>
    IO.eprintln (announced error.message)
    return 1
  | .ok spec =>
    IO.println (announced "Starting in HEADLESS mode")
    let options := launch.startOptions
    let watch := if launch.watch then some ⟨[], options⟩ else none
    let cabinet : Cabinet Float32 Float := Cabinet.new (← entropy) watch none
    play launch (found.toOption.getD "") (cabinet.insert spec options)

/-- Launch as arguments, environment and startup file say. -/
def start (arguments : List String) : IO UInt32 := do
  let startup ← loadStartup
  match Launch.resolve arguments startup (← environment) with
  | .error error =>
    IO.eprintln (announced error.message)
    return 2
  | .ok launch => run launch

end Arcade.Main

def main (arguments : List String) : IO UInt32 := Arcade.Main.start arguments
