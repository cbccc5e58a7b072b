import Arcade.Spec.Validate
import Arcade.World.Play

/-! How a game is launched: by the command line first, then by the environment, then by a startup
file. -/

namespace Arcade

/-- What a startup file can settle. -/
structure Startup where
  assetsDir : Option String
  apiAddress : Option String
  seed : Option Nat
  scene : Option String
  textureFilter : Option String

inductive LaunchError where
  | missingSpecPath
  | unknownArgument (argument : String)
  | missingValue (flag : String)
  | invalidSeed (text : String)
  | unreadable (path reason : String)
  | spec (error : SpecError)

namespace LaunchError

def message : LaunchError → String
  | missingSpecPath =>
    "usage: playspec <spec.json> [--headless] [--watch] [--no-api] [--scene <name>] [--seed <n>]"
  | unknownArgument argument => "unknown argument '" ++ argument ++ "'"
  | missingValue flag => flag ++ " expects a value"
  | invalidSeed text => "invalid seed '" ++ text ++ "'"
  | unreadable path reason => "failed to read " ++ path ++ ": " ++ reason
  | spec error => error.message

end LaunchError

namespace Startup

def default : Startup := ⟨none, none, none, none, none⟩

/-- A setting that an object may leave out and an array may not. -/
def setting (name : String) (read : Reader α) : Field (Option α) :=
  ⟨name, none, Reader.option read, some none, none⟩

def schema : Schema (Option String × Option String × Option Nat × Option String ×
    Option String × Unit) :=
  .cons (setting "assets_dir" Reader.string)
    (.cons (setting "api_addr" Reader.string)
      (.cons (setting "seed" Reader.word64)
        (.cons (setting "scene" Reader.string)
          (.cons (setting "texture_filter" Reader.string) .nil))))

def reader (origin : Origin) (room : Nat) : Reader Startup := fun draft =>
  (schema.read origin "struct StartupConfig" room draft).map
    fun (assetsDir, apiAddress, seed, scene, textureFilter, ()) =>
      ⟨assetsDir, apiAddress, seed, scene, textureFilter⟩

def decode (tree : Json) : Except JsonError Startup := Spec.Form.ofTree (reader .tree) tree

def parse (text : String) : Except JsonError Startup := Spec.Form.ofText (reader .text) text

/-- The settings of a file's contents. A file that cannot be read settles nothing. -/
def ofContents (contents : Option String) : Startup :=
  match contents.map parse with
  | some (.ok startup) => startup
  | _ => default

/-- Where the startup file is, unless the environment says otherwise. -/
def defaultPath : String := "playspec.json"

/-- The variable that says where it is. -/
def pathVariable : String := "PLAYSPEC_CONFIG"

/-- The path that the environment gives, if it gives one. -/
def path (given : Option String) : String :=
  (given.filter fun path => !path.isEmpty).getD defaultPath

end Startup

/-- What the arguments say. -/
structure CommandLine where
  specPath : Option String
  headless : Bool
  watch : Bool
  api : Bool
  scene : Option String
  seed : Option String
  deriving DecidableEq

namespace CommandLine

def start : CommandLine := ⟨none, false, false, true, none, none⟩

def sceneFlag : String := "--scene"
def seedFlag : String := "--seed"

/-- A flag by itself; none if the argument is none. -/
def flag? (line : CommandLine) (argument : String) : Option CommandLine :=
  if argument = "--headless" then some { line with headless := true }
  else if argument = "--watch" then some { line with watch := true }
  else if argument = "--no-api" then some { line with api := false }
  else none

/-- A flag with a value; none if the argument is none. -/
def option? (line : CommandLine) (argument value : String) : Option CommandLine :=
  if argument = sceneFlag then some { line with scene := some value }
  else if argument = seedFlag then some { line with seed := some value }
  else none

def isOption (argument : String) : Bool := argument = sceneFlag || argument = seedFlag

def looksLikeFlag (argument : String) : Bool := ['-', '-'].isPrefixOf argument.toList

/-- Read arguments from left to right. The last value of a flag counts. -/
def read (line : CommandLine) : List String → Except LaunchError CommandLine
  | [] => .ok line
  | [argument] =>
    match line.flag? argument with
    | some line => .ok line
    | none =>
      if isOption argument then .error (.missingValue argument)
      else if looksLikeFlag argument || line.specPath.isSome then
        .error (.unknownArgument argument)
      else .ok { line with specPath := some argument }
  | argument :: value :: rest =>
    match line.flag? argument with
    | some line => read line (value :: rest)
    | none =>
      match line.option? argument value with
      | some line => read line rest
      | none =>
        if looksLikeFlag argument || line.specPath.isSome then
          .error (.unknownArgument argument)
        else read { line with specPath := some argument } (value :: rest)

end CommandLine

/-- How to launch a game. -/
structure Launch where
  specPath : String
  headless : Bool
  watch : Bool
  api : Bool
  scene : Option String
  seed : Option Nat
  assetsDir : String
  apiAddress : String
  nearestFilter : Bool
  deriving DecidableEq

namespace Launch

def defaultAssetsDir : String := "assets"
def defaultApiAddress : String := "127.0.0.1:3000"

def seedVariable : String := "PLAYSPEC_SEED"
def assetsDirVariable : String := "PLAYSPEC_ASSETS_DIR"
def apiAddressVariable : String := "PLAYSPEC_API_ADDR"
def textureFilterVariable : String := "PLAYSPEC_TEXTURE_FILTER"

/-- The variables of the environment that are looked at. -/
def variableNames : List String :=
  [seedVariable, assetsDirVariable, apiAddressVariable, textureFilterVariable]

/-- The seed of a text. -/
def seed? (text : String) : Option Nat :=
  Text.naturalUpTo? Text.maxWord64 (Text.trim text.toList)

/-- The seed of the highest source that gives one. A text that is no seed is an error. -/
def chooseSeed (text : Option String) (otherwise : Option Nat) : Except LaunchError (Option Nat) :=
  match text with
  | some text =>
    match seed? text with
    | some seed => .ok (some seed)
    | none => .error (.invalidSeed text)
  | none => .ok otherwise

/-- A variable of the environment that is not blank. -/
def nonBlank? (environment : String → Option String) (name : String) : Option String :=
  (environment name).filter fun value => !Text.allBlank value.toList

/-- Whether the name of a texture filter is that of the nearest pixel, in any case. -/
def isNearest (name : String) : Bool :=
  String.ofList (name.toList.map Char.toLower) = "nearest"

/-- Settle how to launch. -/
def resolve (arguments : List String) (startup : Startup)
    (environment : String → Option String) : Except LaunchError Launch := do
  let line ← CommandLine.start.read arguments
  let seed ← chooseSeed (line.seed.or (nonBlank? environment seedVariable)) startup.seed
  match line.specPath with
  | none => .error .missingSpecPath
  | some specPath => .ok {
      specPath
      headless := line.headless
      watch := line.watch
      api := line.api
      scene := line.scene.or startup.scene
      seed
      assetsDir := ((nonBlank? environment assetsDirVariable).or startup.assetsDir).getD
        defaultAssetsDir
      apiAddress := ((nonBlank? environment apiAddressVariable).or startup.apiAddress).getD
        defaultApiAddress
      nearestFilter :=
        ((nonBlank? environment textureFilterVariable).or startup.textureFilter).any isNearest }

def startOptions (launch : Launch) : StartOptions := ⟨launch.scene, launch.seed⟩

/-- The game of the file's contents, or of the reason why it cannot be read. -/
def load [Scalar S] (launch : Launch) (contents : Except String String) :
    Except LaunchError (Spec S) :=
  match contents with
  | .error reason => .error (.unreadable launch.specPath reason)
  | .ok text => (Spec.ofText text).mapError .spec

end Launch

end Arcade
