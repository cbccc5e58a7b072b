import Arcade.Json.Record
import Arcade.Spec.Basic

/-! A game as a JSON tree. Absent options are left out; a length is written as the double of its
value, and as `null` when it is not finite. -/

namespace Arcade.Spec

variable {S : Type} [Scalar S]

def scalarJson (x : S) : Json :=
  match Scalar.toDouble? x with
  | some value => .number (.float value)
  | none => .null

def stringsJson (items : List String) : Json := .array (items.map .string)

def vecJson (v : Vec S) : Json :=
  Json.record [("x", some (scalarJson v.x)), ("y", some (scalarJson v.y))]

def Physics.toJson (physics : Physics S) : Json :=
  Json.record
    [("enabled", some (.bool physics.enabled)), ("gravity", some (vecJson physics.gravity)),
      ("debug", some (.bool physics.debug))]

def Settings.toJson (settings : Settings S) : Json :=
  Json.record
    [("width", some (.ofNat settings.width)), ("height", some (.ofNat settings.height)),
      ("background_color", some (.string settings.background)),
      ("physics", some settings.physics.toJson)]

def Asset.toJson (asset : Asset) : Json :=
  Json.record
    [("key", some (.string asset.key)), ("type", some (.string asset.kind.name)),
      ("url", some (.string asset.url))]

def Body.toJson (body : Body S) : Json :=
  Json.record
    [("body", some (.string body.role.name)), ("bounce", body.bounce.map scalarJson),
      ("collide_world_bounds", body.bounded.map .bool), ("velocity", body.velocity.map vecJson)]

def Shape.toJson (shape : Shape S) : Json :=
  Json.record
    [("width", shape.width.map scalarJson), ("height", shape.height.map scalarJson),
      ("radius", shape.radius.map scalarJson), ("color", shape.color.map .string)]

def Label.toJson (label : Label) : Json :=
  Json.record
    [("text", some (.string label.text)), ("font_size", label.fontSize.map .string),
      ("fill", label.fill.map .string)]

def Emoji.toJson (emoji : Emoji S) : Json :=
  Json.record
    [("symbol", some (.string emoji.symbol)), ("size", emoji.size.map scalarJson)]

/-- Controls, given the tree of their template. -/
def Controls.toJson (controls : Controls S α) (template : Option Json) : Json :=
  Json.record
    [("left", controls.left.map .string), ("right", controls.right.map .string),
      ("jump", controls.jump.map .string), ("up", controls.up.map .string),
      ("down", controls.down.map .string), ("shoot", controls.shoot.map .string),
      ("projectile", template), ("speed", controls.speed.map scalarJson),
      ("jump_velocity", controls.jumpVelocity.map scalarJson)]

mutual

def Blueprint.toJson : Blueprint S → Json
  | ⟨id, kind, x, y, texture, shape, label, emoji, body, controls, behavior, parameters⟩ =>
    Json.record
      [("id", some (.string id)), ("type", some (.string kind.name)),
        ("x", some (scalarJson x)), ("y", some (scalarJson y)),
        ("texture", texture.map .string), ("shape", shape.map Shape.toJson),
        ("text", label.map Label.toJson), ("emoji", emoji.map Emoji.toJson),
        ("physics", body.map Body.toJson), ("controls", controlsJson controls),
        ("behavior", behavior.map fun kind => .string kind.name),
        ("behavior_params", parameters)]

def controlsJson : Option (Controls S (Blueprint S)) → Option Json
  | none => none
  | some ⟨left, right, jump, up, down, shoot, projectile, speed, jumpVelocity⟩ =>
    let bare : Controls S Unit :=
      ⟨left, right, jump, up, down, shoot, none, speed, jumpVelocity⟩
    some (bare.toJson (templateJson projectile))

def templateJson : Option (Blueprint S) → Option Json
  | none => none
  | some template => some template.toJson

end

def Variance.toJson (variance : Variance S) : Json :=
  Json.record
    [("x_min", some (scalarJson variance.xMin)), ("x_max", some (scalarJson variance.xMax)),
      ("y_min", variance.yMin.map scalarJson), ("y_max", variance.yMax.map scalarJson)]

def Spawner.toJson (spawner : Spawner S) : Json :=
  Json.record
    [("id", some (.string spawner.id)), ("template", some spawner.template.toJson),
      ("interval", some (.ofNat spawner.interval)),
      ("max_count", spawner.maxCount.map .ofNat), ("spawn_area", some (.string spawner.area)),
      ("position_variance", spawner.variance.map Variance.toJson)]

def Effect.toJson : Effect → Json
  | updateScore points =>
    Json.record [("type", some (.string "updateScore")), ("points", some (.int points))]
  | gameOver => Json.record [("type", some (.string "gameOver"))]
  | destroy => Json.record [("type", some (.string "destroy"))]
  | updateText id text =>
    Json.record [("type", some (.string "updateText")), ("object_id", some (.string id)),
      ("text", some (.string text))]

def Action.toJson (action : Action) : Json :=
  Json.record [("name", some (.string action.name)), ("effect", some action.effect.toJson)]

def Logic.toJson (logic : Logic S) : Json :=
  Json.record
    [("on_collision", logic.onCollision.map stringsJson),
      ("on_overlap", logic.onOverlap.map stringsJson),
      ("timers", logic.timers.map stringsJson),
      ("spawners", logic.spawners.map fun spawners => .array (spawners.map Spawner.toJson)),
      ("actions", logic.actions.map fun actions => .array (actions.map Action.toJson))]

def Scene.toJson (scene : Scene S) : Json :=
  Json.record
    [("name", some (.string scene.name)),
      ("objects", some (.array (scene.objects.map Blueprint.toJson))),
      ("custom_logic", scene.logic.map Logic.toJson)]

def toJson (spec : Spec S) : Json :=
  Json.record
    [("title", some (.string spec.title)), ("description", some (.string spec.description)),
      ("game", some spec.settings.toJson),
      ("assets", some (.array (spec.assets.map Asset.toJson))),
      ("scenes", some (.array (spec.scenes.map Scene.toJson))),
      ("controls_description", some (stringsJson spec.controlsDescription)),
      ("key_concepts", some (stringsJson spec.keyConcepts))]

end Arcade.Spec
