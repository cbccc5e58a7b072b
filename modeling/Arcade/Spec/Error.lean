import Arcade.Json.Error
import Arcade.Spec.Basic

/-! What can be wrong with a game: its document, its shape, or a part that cannot be built. -/

namespace Arcade

def JsonError.message : JsonError → String
  | .breach .malformed => "malformed JSON"
  | .breach .unfinished => "unexpected end of JSON"
  | .misfit what => what.message

/-- A document that is no game. -/
inductive SpecError where
  | json (error : JsonError)
  | noScenes
  | zeroDimensions (width height : Nat)
  | duplicateScene (name : String)
  | duplicateAsset (key : String)

namespace SpecError

def message : SpecError → String
  | json error => "invalid spec JSON: " ++ error.message
  | noScenes => "spec declares no scenes"
  | zeroDimensions width height =>
    "game dimensions must be positive (got " ++ toString width ++ "x" ++ toString height ++ ")"
  | duplicateScene name => "duplicate scene name '" ++ name ++ "'"
  | duplicateAsset key => "duplicate asset key '" ++ key ++ "'"

end SpecError

/-- A part of a scene that could not be built. The scene goes on without it. -/
inductive BuildError where
  | missingPayload (id : String) (kind : Spec.Kind) (field : String)
  | unresolvedTarget (rule side : String)
  | malformedRule (line : String)
  | malformedTimer (line : String)
  | duplicateObjectId (id : String)
  | templateNotSpawnable (spawner reason : String)
  deriving DecidableEq

namespace BuildError

def message : BuildError → String
  | missingPayload id kind field =>
    "object '" ++ id ++ "' of type " ++ kind.name ++ " is missing its '" ++ field ++ "' payload"
  | unresolvedTarget rule side => "rule '" ++ rule ++ "' references unknown id '" ++ side ++ "'"
  | malformedRule line => "malformed interaction rule '" ++ line ++ "'"
  | malformedTimer line => "malformed timer rule '" ++ line ++ "'"
  | duplicateObjectId id =>
    "object id '" ++ id ++ "' declared more than once; latest declaration wins"
  | templateNotSpawnable spawner reason =>
    "spawner '" ++ spawner ++ "' cannot instantiate its template: " ++ reason

end BuildError

/-- A game that cannot be started. -/
inductive StartError where
  | spec (error : SpecError)
  | unknownScene (name : String)

def StartError.message : StartError → String
  | .spec error => error.message
  | .unknownScene name => "scene '" ++ name ++ "' not found in spec"

end Arcade
