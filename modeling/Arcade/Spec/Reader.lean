import Arcade.Json.Tagged
import Arcade.Json.Text
import Arcade.Spec.Basic

/-! Reading a game from JSON text or from a JSON tree. Both go through the same schemas; nesting in
text is limited, in a tree it is not. -/

namespace Arcade.Spec.Form

open Arcade.Field (required withDefault optional)

variable {S : Type} [Scalar S]

/-- Levels of nesting that text may have. -/
def textRoom : Nat := 127

def scalar : Reader S := fun draft => (Reader.number "f32" draft).map Scalar.ofNumber

def vec : S × S × Unit → Vec S
  | (x, y, ()) => ⟨x, y⟩

def gravitySchema : Schema (S × S × Unit) :=
  .cons (withDefault "x" 0 scalar) (.cons (required "y" scalar) .nil)

def velocitySchema : Schema (S × S × Unit) :=
  .cons (withDefault "x" 0 scalar) (.cons (withDefault "y" 0 scalar) .nil)

def gravity (origin : Origin) (room : Nat) : Reader (Vec S) := fun draft =>
  (gravitySchema.read origin "struct GravityConfig" room draft).map vec

def velocity (origin : Origin) (room : Nat) : Reader (Vec S) := fun draft =>
  (velocitySchema.read origin "struct VelocityConfig" room draft).map vec

def physicsSchema (origin : Origin) (room : Nat) : Schema (Bool × Vec S × Bool × Unit) :=
  .cons (required "enabled" Reader.bool)
    (.cons (required "gravity" (gravity origin room))
      (.cons (withDefault "debug" false Reader.bool) .nil))

def physics (origin : Origin) (room : Nat) : Reader (Physics S) := fun draft =>
  ((physicsSchema origin (room - 1)).read origin "struct PhysicsConfig" room draft).map
    fun (enabled, gravity, debug, ()) => ⟨enabled, gravity, debug⟩

def settingsSchema (origin : Origin) (room : Nat) :
    Schema (Nat × Nat × String × Physics S × Unit) :=
  .cons (required "width" Reader.word32)
    (.cons (required "height" Reader.word32)
      (.cons (withDefault "background_color" defaultBackground Reader.string)
        (.cons (required "physics" (physics origin room)) .nil)))

def settings (origin : Origin) (room : Nat) : Reader (Settings S) := fun draft =>
  ((settingsSchema origin (room - 1)).read origin "struct GameConfig" room draft).map
    fun (width, height, background, physics, ()) => ⟨width, height, background, physics⟩

def assetSchema (origin : Origin) (room : Nat) : Schema (String × AssetKind × String × Unit) :=
  .cons (required "key" Reader.string)
    (.cons (required "type" (Reader.variant origin assetKinds room))
      (.cons (required "url" Reader.string) .nil))

def asset (origin : Origin) (room : Nat) : Reader Asset := fun draft =>
  ((assetSchema origin (room - 1)).read origin "struct Asset" room draft).map
    fun (key, kind, url, ()) => ⟨key, kind, url⟩

def bodySchema (origin : Origin) (room : Nat) :
    Schema (Role × Option S × Option Bool × Option (Vec S) × Unit) :=
  .cons (required "body" (Reader.variant origin roles room))
    (.cons (optional "bounce" scalar)
      (.cons (optional "collide_world_bounds" Reader.bool)
        (.cons (optional "velocity" (velocity origin room)) .nil)))

def body (origin : Origin) (room : Nat) : Reader (Body S) := fun draft =>
  ((bodySchema origin (room - 1)).read origin "struct ObjectPhysics" room draft).map
    fun (role, bounce, bounded, velocity, ()) => ⟨role, bounce, bounded, velocity⟩

def shapeSchema : Schema (Option S × Option S × Option S × Option String × Unit) :=
  .cons (optional "width" scalar)
    (.cons (optional "height" scalar)
      (.cons (optional "radius" scalar)
        (.cons (optional "color" Reader.string) .nil)))

def shape (origin : Origin) (room : Nat) : Reader (Shape S) := fun draft =>
  (shapeSchema.read origin "struct ShapeProperties" room draft).map
    fun (width, height, radius, color, ()) => ⟨width, height, radius, color⟩

def labelSchema : Schema (String × Option String × Option String × Unit) :=
  .cons (required "text" Reader.string)
    (.cons (optional "font_size" Reader.string)
      (.cons (optional "fill" Reader.string) .nil))

def label (origin : Origin) (room : Nat) : Reader Label := fun draft =>
  (labelSchema.read origin "struct TextProperties" room draft).map
    fun (text, fontSize, fill, ()) => ⟨text, fontSize, fill⟩

/-- The symbol has two spellings. -/
def emojiSchema : Schema (String × Option S × Unit) :=
  .cons ⟨"symbol", some "char", Reader.string, none, none⟩
    (.cons (optional "size" scalar) .nil)

def emoji (origin : Origin) (room : Nat) : Reader (Emoji S) := fun draft =>
  (emojiSchema.read origin "struct EmojiProperties" room draft).map
    fun (symbol, size, ()) => ⟨symbol, size⟩

abbrev ControlsRow (S : Type) : Type :=
  Option String × Option String × Option String × Option String × Option String ×
    Option String × Option (Blueprint S) × Option S × Option S × Unit

def controlsSchema (template : Reader (Blueprint S)) : Schema (ControlsRow S) :=
  .cons (optional "left" Reader.string)
    (.cons (optional "right" Reader.string)
      (.cons (optional "jump" Reader.string)
        (.cons (optional "up" Reader.string)
          (.cons (optional "down" Reader.string)
            (.cons (optional "shoot" Reader.string)
              (.cons (optional "projectile" template)
                (.cons (optional "speed" scalar)
                  (.cons (optional "jump_velocity" scalar) .nil))))))))

def controlsOf : ControlsRow S → Controls S (Blueprint S)
  | (left, right, jump, up, down, shoot, projectile, speed, jumpVelocity, ()) =>
    ⟨left, right, jump, up, down, shoot, projectile, speed, jumpVelocity⟩

abbrev BlueprintRow (S : Type) : Type :=
  String × Kind × S × S × Option String × Option (Shape S) × Option Label ×
    Option (Emoji S) × Option (Body S) × Option (Controls S (Blueprint S)) ×
    Option BehaviorKind × Option Json × Unit

def blueprintSchema (origin : Origin) (room : Nat)
    (controls : Reader (Controls S (Blueprint S))) : Schema (BlueprintRow S) :=
  .cons (required "id" Reader.string)
    (.cons (required "type" (Reader.variant origin kinds room))
      (.cons (withDefault "x" 0 scalar)
        (.cons (withDefault "y" 0 scalar)
          (.cons (optional "texture" Reader.string)
            (.cons (optional "shape" (shape origin room))
              (.cons (optional "text" (label origin room))
                (.cons (optional "emoji" (emoji origin room))
                  (.cons (optional "physics" (body origin room))
                    (.cons (optional "controls" controls)
                      (.cons (optional "behavior" (Reader.variant origin behaviorKinds room))
                        (.cons (optional "behavior_params" (Reader.tree room))
                          .nil)))))))))))

def blueprintOf : BlueprintRow S → Blueprint S
  | (id, kind, x, y, texture, shape, label, emoji, body, controls, behavior, parameters, ()) =>
    ⟨id, kind, x, y, texture, shape, label, emoji, body, controls, behavior, parameters⟩

mutual

/-- Controls hold a template, which is an object with controls of its own. -/
def controls (origin : Origin) : Nat → Reader (Controls S (Blueprint S))
  | 0, draft =>
    ((controlsSchema (Reader.mismatch "")).read origin "struct Controls" 0 draft).map controlsOf
  | room + 1, draft =>
    ((controlsSchema (blueprint origin room)).read origin "struct Controls"
      (room + 1) draft).map controlsOf

def blueprint (origin : Origin) : Nat → Reader (Blueprint S)
  | 0, draft =>
    ((blueprintSchema origin 0 (Reader.mismatch "")).read origin "struct GameObject"
      0 draft).map blueprintOf
  | room + 1, draft =>
    ((blueprintSchema origin room (controls origin room)).read origin "struct GameObject"
      (room + 1) draft).map blueprintOf

end

def varianceSchema : Schema (S × S × Option S × Option S × Unit) :=
  .cons (required "x_min" scalar)
    (.cons (required "x_max" scalar)
      (.cons (optional "y_min" scalar)
        (.cons (optional "y_max" scalar) .nil)))

def variance (origin : Origin) (room : Nat) : Reader (Variance S) := fun draft =>
  (varianceSchema.read origin "struct PositionVariance" room draft).map
    fun (xMin, xMax, yMin, yMax, ()) => ⟨xMin, xMax, yMin, yMax⟩

def spawnerSchema (origin : Origin) (room : Nat) :
    Schema (String × Blueprint S × Nat × Option Nat × String × Option (Variance S) × Unit) :=
  .cons (required "id" Reader.string)
    (.cons (required "template" (blueprint origin room))
      (.cons (required "interval" Reader.word32)
        (.cons (optional "max_count" Reader.word32)
          (.cons (required "spawn_area" Reader.string)
            (.cons (optional "position_variance" (variance origin room)) .nil)))))

def spawner (origin : Origin) (room : Nat) : Reader (Spawner S) := fun draft =>
  ((spawnerSchema origin (room - 1)).read origin "struct Spawner" room draft).map
    fun (id, template, interval, maxCount, area, variance, ()) =>
      ⟨id, template, interval, maxCount, area, variance⟩

/-- The kinds of effects, each with the reader of its own parts. -/
def effectKinds : List (String × Reader Effect) :=
  [("updateScore",
      Tagged.parts "struct variant ActionEffect::UpdateScore"
        (.cons (required "points" Reader.signed32) .nil)
        fun (points, ()) => .updateScore points),
    ("gameOver", Tagged.bare .gameOver),
    ("destroy", Tagged.bare .destroy),
    ("updateText",
      Tagged.parts "struct variant ActionEffect::UpdateText"
        (.cons (required "object_id" Reader.string) (.cons (required "text" Reader.string) .nil))
        fun (id, text, ()) => .updateText id text)]

def effect (room : Nat) : Reader Effect :=
  Tagged.read "internally tagged enum ActionEffect" effectKinds room

def actionSchema (room : Nat) : Schema (String × Effect × Unit) :=
  .cons (required "name" Reader.string) (.cons (required "effect" (effect room)) .nil)

def action (origin : Origin) (room : Nat) : Reader Action := fun draft =>
  ((actionSchema (room - 1)).read origin "struct ActionDefinition" room draft).map
    fun (name, effect, ()) => ⟨name, effect⟩

abbrev LogicRow (S : Type) : Type :=
  Option (List String) × Option (List String) × Option (List String) ×
    Option (List (Spawner S)) × Option (List Action) × Unit

def strings (room : Nat) : Reader (List String) := Reader.list (fun _ => Reader.string) room

def logicSchema (origin : Origin) (room : Nat) : Schema (LogicRow S) :=
  .cons (optional "on_collision" (strings room))
    (.cons (optional "on_overlap" (strings room))
      (.cons (optional "timers" (strings room))
        (.cons (optional "spawners" (Reader.list (spawner origin) room))
          (.cons (optional "actions" (Reader.list (action origin) room)) .nil))))

def logic (origin : Origin) (room : Nat) : Reader (Logic S) := fun draft =>
  ((logicSchema origin (room - 1)).read origin "struct CustomLogic" room draft).map
    fun (onCollision, onOverlap, timers, spawners, actions, ()) =>
      ⟨onCollision, onOverlap, timers, spawners, actions⟩

def sceneSchema (origin : Origin) (room : Nat) :
    Schema (String × List (Blueprint S) × Option (Logic S) × Unit) :=
  .cons (required "name" Reader.string)
    (.cons (required "objects" (Reader.list (blueprint origin) room))
      (.cons (optional "custom_logic" (logic origin room)) .nil))

def scene (origin : Origin) (room : Nat) : Reader (Scene S) := fun draft =>
  ((sceneSchema origin (room - 1)).read origin "struct Scene" room draft).map
    fun (name, objects, logic, ()) => ⟨name, objects, logic⟩

abbrev SpecRow (S : Type) : Type :=
  String × String × Settings S × List Asset × List (Scene S) × List String × List String × Unit

def specSchema (origin : Origin) (room : Nat) : Schema (SpecRow S) :=
  .cons (required "title" Reader.string)
    (.cons (required "description" Reader.string)
      (.cons (required "game" (settings origin room))
        (.cons (withDefault "assets" [] (Reader.list (asset origin) room))
          (.cons (required "scenes" (Reader.list (scene origin) room))
            (.cons (withDefault "controls_description" [] (strings room))
              (.cons (withDefault "key_concepts" [] (strings room)) .nil))))))

/-- A whole game. -/
def spec (origin : Origin) (room : Nat) : Reader (Spec S) := fun draft =>
  ((specSchema origin (room - 1)).read origin "struct GameSpec" room draft).map
    fun (title, description, settings, assets, scenes, controlsDescription, keyConcepts, ()) =>
      ⟨title, description, settings, assets, scenes, controlsDescription, keyConcepts⟩

/-- Read a value from text that holds nothing else. -/
def ofText (read : Nat → Reader α) (text : String) : Except JsonError α := do
  let (draft, more) := Json.Text.draft text
  let value ← read textRoom draft
  if more then .error (.breach .malformed) else .ok value

/-- Read a value from a tree, with room for all its levels. -/
def ofTree (read : Nat → Reader α) (tree : Json) : Except JsonError α :=
  read tree.depth tree.toDraft

end Arcade.Spec.Form

namespace Arcade.Spec

variable {S : Type} [Scalar S]

/-- A game from JSON text, not yet validated. -/
def parse (text : String) : Except JsonError (Spec S) := Form.ofText (Form.spec .text) text

/-- A game from a JSON tree, not yet validated. -/
def decode (tree : Json) : Except JsonError (Spec S) := Form.ofTree (Form.spec .tree) tree

end Arcade.Spec
