import Arcade.Proofs.Regular
import Arcade.Proofs.Restoring
import Arcade.Proofs.Widening
import Arcade.Spec.Writer

/-! A game that was read, written as a tree and read again. Every part of a game is restored from its
tree, in whatever order the members stand, exactly if its lengths are finite: a length that is not finite
is written as `null`, which no length is read from and which an optional one takes for its absence. -/

namespace Arcade

/-- Numbers that are the values of the doubles they are written as. -/
class Scalar.Exact (S : Type) [Scalar S] : Prop where
  ofDouble_toDouble? {x : S} {value : Float} : toDouble? x = some value → ofDouble value = x

instance : Scalar.Exact Float32 where
  ofDouble_toDouble? {x value} written := by
    change (if x.isFinite then some (Number.widen x) else none) = some value at written
    split at written
    · rename_i finite
      cases written
      exact Number.narrow_widen finite
    · cases written

/-! ### Lengths of a game -/

variable {S : Type}

def Vec.lengths (v : Vec S) : List S := [v.x, v.y]

namespace Spec

def Physics.lengths (physics : Physics S) : List S := physics.gravity.lengths

def Body.lengths (body : Body S) : List S :=
  body.bounce.toList ++ body.velocity.toList.flatMap Vec.lengths

def Shape.lengths (shape : Shape S) : List S :=
  shape.width.toList ++ shape.height.toList ++ shape.radius.toList

def Emoji.lengths (emoji : Emoji S) : List S := emoji.size.toList

mutual

def Blueprint.lengths : Blueprint S → List S
  | ⟨_, _, x, y, _, shape, _, emoji, body, controls, _, _⟩ =>
    [x, y] ++ shape.toList.flatMap Shape.lengths ++ emoji.toList.flatMap Emoji.lengths ++
      body.toList.flatMap Body.lengths ++ controlsLengths controls

def controlsLengths : Option (Controls S (Blueprint S)) → List S
  | none => []
  | some ⟨_, _, _, _, _, _, projectile, speed, jumpVelocity⟩ =>
    templateLengths projectile ++ speed.toList ++ jumpVelocity.toList

def templateLengths : Option (Blueprint S) → List S
  | none => []
  | some template => template.lengths

end

def Variance.lengths (variance : Variance S) : List S :=
  [variance.xMin, variance.xMax] ++ variance.yMin.toList ++ variance.yMax.toList

def Spawner.lengths (spawner : Spawner S) : List S :=
  spawner.template.lengths ++ spawner.variance.toList.flatMap Variance.lengths

def Logic.lengths (logic : Logic S) : List S :=
  logic.spawners.toList.flatMap fun spawners => spawners.flatMap Spawner.lengths

def Scene.lengths (scene : Scene S) : List S :=
  scene.objects.flatMap Blueprint.lengths ++ scene.logic.toList.flatMap Logic.lengths

/-- All lengths of a game, those of nested templates included. -/
def lengths (spec : Spec S) : List S :=
  spec.settings.physics.lengths ++ spec.scenes.flatMap Scene.lengths

variable [Scalar S]

/-- None of the lengths overflows. -/
def AllFinite (lengths : List S) : Prop := ∀ x ∈ lengths, Scalar.isFinite x = true

@[simp] theorem allFinite_nil : AllFinite ([] : List S) := by simp [AllFinite]

@[simp] theorem allFinite_cons {x : S} {lengths : List S} :
    AllFinite (x :: lengths) ↔ Scalar.isFinite x = true ∧ AllFinite lengths := by
  simp [AllFinite]

@[simp] theorem allFinite_append {first second : List S} :
    AllFinite (first ++ second) ↔ AllFinite first ∧ AllFinite second := by
  simp [AllFinite, or_imp, forall_and]

@[simp] theorem allFinite_flatMap {items : List α} {lengths : α → List S} :
    AllFinite (items.flatMap lengths) ↔ ∀ item ∈ items, AllFinite (lengths item) := by
  simp only [AllFinite, List.mem_flatMap]
  constructor
  · intro every item member x inside
    exact every x ⟨item, member, inside⟩
  · rintro every x ⟨item, member, inside⟩
    exact every item member x inside

@[simp] theorem allFinite_toList {part : Option S} :
    AllFinite part.toList ↔ ∀ x ∈ part, Scalar.isFinite x = true := by
  simp [AllFinite]

/-! ### Parts of a game are restored -/

namespace Form

open Arcade.Field (required withDefault optional restores_required restores_withDefault
  restores_optional)
open Arcade.Reader (restores_string restores_bool restores_word32 restores_variant restores_list)

theorem isFinite_of_scalarJson {x : S} (finite : Scalar.isFinite x = true) : scalarJson x ≠ .null := by
  unfold Scalar.isFinite at finite
  unfold scalarJson
  cases written : Scalar.toDouble? x with
  | none =>
    rw [written] at finite
    cases finite
  | some value => rintro ⟨⟩

theorem restores_scalar [Scalar.Exact S] (room : Nat) (x : S) :
    (scalar : Reader S).Restores room (scalarJson x) x (Scalar.isFinite x = true) := by
  unfold Scalar.isFinite scalarJson
  cases written : Scalar.toDouble? x with
  | none =>
    refine Reader.restores_plain room rfl (iff_of_false ?_ (by simp))
    rintro ⟨⟩
  | some value =>
    refine Reader.restores_plain room rfl (iff_of_true ?_ rfl)
    exact congrArg Except.ok (Scalar.Exact.ofDouble_toDouble? written)

/-- An optional length. -/
theorem restores_length [Scalar.Exact S] (room : Nat) (part : Option S) (name : String) :
    (optional name (scalar : Reader S)).Restores room (part.map scalarJson) part
      (∀ x ∈ part, Scalar.isFinite x = true) :=
  restores_optional (fun x _ => restores_scalar room x) (fun _ _ => isFinite_of_scalarJson) name

/-- An optional text. -/
theorem restores_caption (room : Nat) (part : Option String) (name : String) :
    (optional name Reader.string).Restores room (part.map .string) part
      (∀ value ∈ part, True) :=
  restores_optional (fun value _ => restores_string room value) (by simp) name

theorem restores_strings (room : Nat) (items : List String) :
    (strings room).Restores room (stringsJson items) items (∀ value ∈ items, True) :=
  restores_list fun value _ => restores_string _ value

theorem restores_parameters (room : Nat) {part : Option Json}
    (free : ∀ tree ∈ part, tree.canonical = tree ∧ tree ≠ .null) :
    (optional "behavior_params" (Reader.tree room)).Restores room part part (∀ tree ∈ part, True) := by
  cases part with
  | none => exact .missing rfl (by simp)
  | some tree =>
    obtain ⟨settled, present⟩ := free tree rfl
    exact .written (((Reader.restores_tree settled room).option fun _ => present).congr (by simp))

/-- A record is restored from its fields, which can be told from it, when its lengths are theirs. -/
theorem restores_record {schema : Schema τ} {room : Nat} {pages : List (String × Option Json)}
    {row : τ} {fine other : Prop} (fields : schema.Restores (room - 1) pages row fine) {make : τ → α}
    (rowOf : α → τ) (inverse : Function.LeftInverse rowOf make)
    (apart : schema.Apart) (same : fine ↔ other) (name : String) :
    Reader.Restores (fun draft => (schema.read .tree name room draft).map make) room
      (Json.record pages) (make row) other :=
  ((fields.read apart id .tree name).congr same).map inverse.injective

section

variable [Scalar.Exact S]

theorem restores_gravity (room : Nat) (v : Vec S) :
    (gravity .tree room).Restores room (vecJson v) v (AllFinite v.lengths) := by
  have fields : gravitySchema.Restores (room - 1) _ (v.x, v.y, ()) _ :=
    .cons (restores_withDefault (restores_scalar _ v.x) "x" 0)
      (.cons (restores_required (restores_scalar _ v.y) "y") .nil)
  refine restores_record fields
    (fun v => (v.x, v.y, ())) (fun _ => rfl) ?_ ?_ "struct GravityConfig"
  · simp [gravitySchema]
  · simp [Vec.lengths]

theorem restores_velocity (room : Nat) (v : Vec S) :
    (velocity .tree room).Restores room (vecJson v) v (AllFinite v.lengths) := by
  have fields : velocitySchema.Restores (room - 1) _ (v.x, v.y, ()) _ :=
    .cons (restores_withDefault (restores_scalar _ v.x) "x" 0)
      (.cons (restores_withDefault (restores_scalar _ v.y) "y" 0) .nil)
  refine restores_record fields
    (fun v => (v.x, v.y, ())) (fun _ => rfl) ?_ ?_ "struct VelocityConfig"
  · simp [velocitySchema]
  · simp [Vec.lengths]

theorem restores_physics (room : Nat) (p : Physics S) :
    (physics .tree room).Restores room p.toJson p (AllFinite p.lengths) := by
  have fields : (physicsSchema .tree (room - 1)).Restores (room - 1) _
      (p.enabled, p.gravity, p.debug, ()) _ :=
    .cons (restores_required (restores_bool _ p.enabled) "enabled")
      (.cons (restores_required (restores_gravity _ p.gravity) "gravity")
        (.cons (restores_withDefault (restores_bool _ p.debug) "debug" false) .nil))
  refine restores_record fields
    (fun p => (p.enabled, p.gravity, p.debug, ())) (fun _ => rfl) ?_ ?_ "struct PhysicsConfig"
  · simp [physicsSchema]
  · simp [Physics.lengths]

theorem restores_settings (room : Nat) {s : Settings S} (fits : s.Fits) :
    (settings .tree room).Restores room s.toJson s (AllFinite s.physics.lengths) := by
  have fields : (settingsSchema .tree (room - 1)).Restores (room - 1) _
      (s.width, s.height, s.background, s.physics, ()) _ :=
    .cons (restores_required (restores_word32 fits.1 _) "width")
      (.cons (restores_required (restores_word32 fits.2 _) "height")
        (.cons (restores_withDefault (restores_string _ s.background) "background_color"
            defaultBackground)
          (.cons (restores_required (restores_physics _ s.physics) "physics") .nil)))
  refine restores_record fields
    (fun s => (s.width, s.height, s.background, s.physics, ()))
    (fun _ => rfl) ?_ ?_ "struct GameConfig"
  · simp [settingsSchema]
  · simp

omit [Scalar S] [Scalar.Exact S] in
theorem restores_asset (room : Nat) (a : Asset) : (asset .tree room).Restores room a.toJson a True := by
  have known : lookup? a.kind.name assetKinds = some a.kind := by cases a.kind <;> rfl
  have fields : (assetSchema .tree (room - 1)).Restores (room - 1) _ (a.key, a.kind, a.url, ()) _ :=
    .cons (restores_required (restores_string _ a.key) "key")
      (.cons (restores_required (restores_variant known .tree _ _) "type")
        (.cons (restores_required (restores_string _ a.url) "url") .nil))
  refine restores_record fields
    (fun a => (a.key, a.kind, a.url, ())) (fun _ => rfl) ?_ ?_ "struct Asset"
  · simp [assetSchema]
  · simp

theorem restores_body (room : Nat) (b : Body S) :
    (body .tree room).Restores room b.toJson b (AllFinite b.lengths) := by
  have known : lookup? b.role.name roles = some b.role := by cases b.role <;> rfl
  have fields : (bodySchema .tree (room - 1)).Restores (room - 1) _
      (b.role, b.bounce, b.bounded, b.velocity, ()) _ :=
    .cons (restores_required (restores_variant known .tree _ _) "body")
      (.cons (restores_length _ b.bounce "bounce")
        (.cons (restores_optional (fun value _ => restores_bool _ value) (by simp)
            "collide_world_bounds")
          (.cons (restores_optional (fun v _ => restores_velocity _ v) (by rintro _ - - ⟨⟩) "velocity")
            .nil)))
  refine restores_record fields
    (fun b => (b.role, b.bounce, b.bounded, b.velocity, ()))
    (fun _ => rfl) ?_ ?_ "struct ObjectPhysics"
  · simp [bodySchema]
  · simp [Body.lengths]

theorem restores_shape (room : Nat) (s : Shape S) :
    (shape .tree room).Restores room s.toJson s (AllFinite s.lengths) := by
  have fields : shapeSchema.Restores (room - 1) _ (s.width, s.height, s.radius, s.color, ()) _ :=
    .cons (restores_length _ s.width "width")
      (.cons (restores_length _ s.height "height")
        (.cons (restores_length _ s.radius "radius")
          (.cons (restores_caption _ s.color "color") .nil)))
  refine restores_record fields
    (fun s => (s.width, s.height, s.radius, s.color, ()))
    (fun _ => rfl) ?_ ?_ "struct ShapeProperties"
  · simp [shapeSchema]
  · simp [Shape.lengths]

omit [Scalar S] [Scalar.Exact S] in
theorem restores_label (room : Nat) (l : Label) : (label .tree room).Restores room l.toJson l True := by
  have fields : labelSchema.Restores (room - 1) _ (l.text, l.fontSize, l.fill, ()) _ :=
    .cons (restores_required (restores_string _ l.text) "text")
      (.cons (restores_caption _ l.fontSize "font_size")
        (.cons (restores_caption _ l.fill "fill") .nil))
  refine restores_record fields
    (fun l => (l.text, l.fontSize, l.fill, ())) (fun _ => rfl) ?_ ?_ "struct TextProperties"
  · simp [labelSchema]
  · simp

/-- The symbol is written under the first of its two spellings. -/
theorem restores_emoji (room : Nat) (e : Emoji S) :
    (emoji .tree room).Restores room e.toJson e (AllFinite e.lengths) := by
  have fields : emojiSchema.Restores (room - 1) _ (e.symbol, e.size, ()) _ :=
    .cons (.written (restores_string _ e.symbol)) (.cons (restores_length _ e.size "size") .nil)
  refine restores_record fields
    (fun e => (e.symbol, e.size, ())) (fun _ => rfl) ?_ ?_ "struct EmojiProperties"
  · simp [emojiSchema]
  · simp [Emoji.lengths]

theorem restores_controlsSchema {c : Controls S (Blueprint S)} {room : Nat}
    {template : Reader (Blueprint S)}
    (own : (optional "projectile" template).Restores (room - 1) (templateJson c.projectile)
      c.projectile (AllFinite (templateLengths c.projectile))) :
    Reader.Restores
      (fun draft => ((controlsSchema template).read .tree "struct Controls" room draft).map controlsOf)
      room (c.toJson (templateJson c.projectile)) c (AllFinite (controlsLengths (some c))) := by
  have fields : (controlsSchema template).Restores (room - 1) _
      (c.left, c.right, c.jump, c.up, c.down, c.shoot, c.projectile, c.speed, c.jumpVelocity, ()) _ :=
    .cons (restores_caption _ c.left "left")
      (.cons (restores_caption _ c.right "right")
        (.cons (restores_caption _ c.jump "jump")
          (.cons (restores_caption _ c.up "up")
            (.cons (restores_caption _ c.down "down")
              (.cons (restores_caption _ c.shoot "shoot")
                (.cons own
                  (.cons (restores_length _ c.speed "speed")
                    (.cons (restores_length _ c.jumpVelocity "jump_velocity") .nil))))))))
  refine restores_record fields
    (fun c => (c.left, c.right, c.jump, c.up, c.down, c.shoot, c.projectile, c.speed,
      c.jumpVelocity, ()))
    (fun _ => rfl) ?_ ?_ "struct Controls"
  · simp [controlsSchema]
  · simp [controlsLengths]

theorem restores_blueprintSchema {b : Blueprint S} {room : Nat}
    {inner : Reader (Controls S (Blueprint S))}
    (own : (optional "controls" inner).Restores (room - 1) (controlsJson b.controls) b.controls
      (AllFinite (controlsLengths b.controls)))
    (free : ∀ tree ∈ b.parameters, tree.canonical = tree ∧ tree ≠ .null) :
    Reader.Restores
      (fun draft => ((blueprintSchema .tree (room - 1) inner).read .tree "struct GameObject" room
        draft).map blueprintOf)
      room b.toJson b (AllFinite b.lengths) := by
  obtain ⟨id, kind, x, y, texture, shape, label, emoji, body, controls, behavior, parameters⟩ := b
  have known : lookup? kind.name kinds = some kind := by cases kind <;> rfl
  have behaves : ∀ kind : BehaviorKind, lookup? kind.name behaviorKinds = some kind := by
    rintro ⟨⟩ <;> rfl
  have fields : (blueprintSchema .tree (room - 1) inner).Restores (room - 1) _
      (id, kind, x, y, texture, shape, label, emoji, body, controls, behavior, parameters, ()) _ :=
    .cons (restores_required (restores_string _ id) "id")
      (.cons (restores_required (restores_variant known .tree _ _) "type")
        (.cons (restores_withDefault (restores_scalar _ x) "x" 0)
          (.cons (restores_withDefault (restores_scalar _ y) "y" 0)
            (.cons (restores_caption _ texture "texture")
              (.cons (restores_optional (fun s _ => restores_shape _ s) (by rintro _ - - ⟨⟩) "shape")
                (.cons (restores_optional (fun l _ => restores_label _ l) (by rintro _ - - ⟨⟩) "text")
                  (.cons
                    (restores_optional (fun e _ => restores_emoji _ e) (by rintro _ - - ⟨⟩) "emoji")
                    (.cons
                      (restores_optional (fun b _ => restores_body _ b) (by rintro _ - - ⟨⟩) "physics")
                      (.cons own
                        (.cons
                          (restores_optional (fun kind _ => restores_variant (behaves kind) .tree _ _)
                            (by simp) "behavior")
                          (.cons (restores_parameters _ free) .nil)))))))))))
  rw [Blueprint.toJson]
  refine restores_record fields
    (fun b => (b.id, b.kind, b.x, b.y, b.texture, b.shape, b.label, b.emoji, b.body, b.controls,
      b.behavior, b.parameters, ()))
    (fun _ => rfl) ?_ ?_ "struct GameObject"
  · simp [blueprintSchema]
  · simp [Blueprint.lengths]

end

/-! The recursion is on the game, not on the levels: where no level is left, the parts are still known
to repeat no name. -/

mutual

theorem restores_blueprint [Scalar.Exact S] : (b : Blueprint S) → b.Regular → ∀ room,
    (blueprint .tree room).Restores room b.toJson b (AllFinite b.lengths)
  | ⟨_, _, _, _, _, _, _, _, _, controls, _, _⟩, regular, 0 => by
    rw [Blueprint.Regular] at regular
    exact restores_blueprintSchema
      (restores_controls controls regular.1 0 (Reader.mismatch "") (absurd rfl)) regular.2
  | ⟨_, _, _, _, _, _, _, _, _, controls, _, _⟩, regular, room + 1 => by
    rw [Blueprint.Regular] at regular
    exact restores_blueprintSchema
      (restores_controls controls regular.1 room (Form.controls .tree room) fun _ => rfl) regular.2

theorem restores_controls [Scalar.Exact S] :
    (part : Option (Controls S (Blueprint S))) → ControlsRegular part →
    ∀ room (inner : Reader (Controls S (Blueprint S))), (room ≠ 0 → inner = controls .tree room) →
      (optional "controls" inner).Restores room (controlsJson part) part
        (AllFinite (controlsLengths part))
  | none, _, _, _, _ => .missing rfl (by simp [controlsLengths])
  | some ⟨left, right, jump, up, down, shoot, projectile, speed, jumpVelocity⟩, regular, _, _, same => by
    rw [ControlsRegular] at regular
    let c : Controls S (Blueprint S) :=
      ⟨left, right, jump, up, down, shoot, projectile, speed, jumpVelocity⟩
    have own : ∀ room, (controls .tree room).Restores room (c.toJson (templateJson c.projectile)) c
        (AllFinite (controlsLengths (some c)))
      | 0 => restores_controlsSchema
          (restores_template projectile regular 0 (Reader.mismatch "") (absurd rfl))
      | room + 1 => restores_controlsSchema
          (restores_template projectile regular room (blueprint .tree room) fun _ => rfl)
    exact Field.restores_nested own rfl same "controls"

theorem restores_template [Scalar.Exact S] : (part : Option (Blueprint S)) → TemplateRegular part →
    ∀ room (inner : Reader (Blueprint S)), (room ≠ 0 → inner = blueprint .tree room) →
      (optional "projectile" inner).Restores room (templateJson part) part
        (AllFinite (templateLengths part))
  | none, _, _, _, _ => .missing rfl (by simp [templateLengths])
  | some template, regular, _, _, same => by
    rw [TemplateRegular] at regular
    have nested : template.toJson.plain = false := by
      cases template
      rw [Blueprint.toJson]
      rfl
    exact Field.restores_nested (restores_blueprint template regular) nested same "projectile"

end

omit [Scalar S] in
/-- An effect is told by its tag, and its parts are read by the reader of its kind. -/
theorem restores_effect (room : Nat) {e : Effect} (regular : e.Regular) :
    (effect room).Restores room e.toJson e True := by
  cases e with
  | updateScore points =>
    have fields : (Schema.cons (required "points" Reader.signed32) .nil).Restores (room - 1) _
        (points, ()) _ :=
      .cons (restores_required (Reader.restores_wholeBetween regular.1 regular.2 _ _) "points") .nil
    have own : (Tagged.parts _ _ fun (points, ()) => Effect.updateScore points).Restores room _ _ _ :=
      Tagged.restores_parts fields (by simp)
        (by rintro ⟨points, ⟨⟩⟩ ⟨others, ⟨⟩⟩ ⟨⟩; rfl) "struct variant ActionEffect::UpdateScore"
    exact Tagged.restores_read rfl (by simp [Tagged.tag]) (own.congr (by simp)) _
  | gameOver => exact Tagged.restores_read rfl (by simp) (Tagged.restores_bare room _) _
  | destroy => exact Tagged.restores_read rfl (by simp) (Tagged.restores_bare room _) _
  | updateText id text =>
    have fields : (Schema.cons (required "object_id" Reader.string)
        (.cons (required "text" Reader.string) .nil)).Restores (room - 1) _ (id, text, ()) _ :=
      .cons (restores_required (restores_string _ id) "object_id")
        (.cons (restores_required (restores_string _ text) "text") .nil)
    have own : (Tagged.parts _ _ fun (id, text, ()) => Effect.updateText id text).Restores room _ _ _ :=
      Tagged.restores_parts fields (by simp)
        (by rintro ⟨id, text, ⟨⟩⟩ ⟨other, line, ⟨⟩⟩ ⟨⟩; rfl) "struct variant ActionEffect::UpdateText"
    exact Tagged.restores_read rfl (by simp [Tagged.tag]) (own.congr (by simp)) _

section

variable [Scalar.Exact S]

theorem restores_variance (room : Nat) (v : Variance S) :
    (variance .tree room).Restores room v.toJson v (AllFinite v.lengths) := by
  have fields : varianceSchema.Restores (room - 1) _ (v.xMin, v.xMax, v.yMin, v.yMax, ()) _ :=
    .cons (restores_required (restores_scalar _ v.xMin) "x_min")
      (.cons (restores_required (restores_scalar _ v.xMax) "x_max")
        (.cons (restores_length _ v.yMin "y_min") (.cons (restores_length _ v.yMax "y_max") .nil)))
  refine restores_record fields
    (fun v => (v.xMin, v.xMax, v.yMin, v.yMax, ())) (fun _ => rfl) ?_ ?_ "struct PositionVariance"
  · simp [varianceSchema]
  · simp [Variance.lengths]

theorem restores_spawner (room : Nat) {s : Spawner S} (regular : s.Regular) :
    (spawner .tree room).Restores room s.toJson s (AllFinite s.lengths) := by
  have fields : (spawnerSchema .tree (room - 1)).Restores (room - 1) _
      (s.id, s.template, s.interval, s.maxCount, s.area, s.variance, ()) _ :=
    .cons (restores_required (restores_string _ s.id) "id")
      (.cons (restores_required (restores_blueprint s.template regular.template _) "template")
        (.cons (restores_required (restores_word32 regular.interval _) "interval")
          (.cons
            (restores_optional (fun count member => restores_word32 (regular.maxCount count member) _)
              (by rintro _ - - ⟨⟩) "max_count")
            (.cons (restores_required (restores_string _ s.area) "spawn_area")
              (.cons
                (restores_optional (fun v _ => restores_variance _ v) (by rintro _ - - ⟨⟩)
                  "position_variance") .nil)))))
  refine restores_record fields
    (fun s => (s.id, s.template, s.interval, s.maxCount, s.area, s.variance, ()))
    (fun _ => rfl) ?_ ?_ "struct Spawner"
  · simp [spawnerSchema]
  · simp [Spawner.lengths]

omit [Scalar S] [Scalar.Exact S] in
theorem restores_action (room : Nat) {a : Action} (regular : a.effect.Regular) :
    (action .tree room).Restores room a.toJson a True := by
  have fields : (actionSchema (room - 1)).Restores (room - 1) _ (a.name, a.effect, ()) _ :=
    .cons (restores_required (restores_string _ a.name) "name")
      (.cons (restores_required (restores_effect _ regular) "effect") .nil)
  refine restores_record fields
    (fun a => (a.name, a.effect, ())) (fun _ => rfl) ?_ ?_ "struct ActionDefinition"
  · simp [actionSchema]
  · simp

theorem restores_logic (room : Nat) {l : Logic S} (regular : l.Regular) :
    (logic .tree room).Restores room l.toJson l (AllFinite l.lengths) := by
  have fields : (logicSchema .tree (room - 1)).Restores (room - 1) _
      (l.onCollision, l.onOverlap, l.timers, l.spawners, l.actions, ()) _ :=
    .cons (restores_optional (fun items _ => restores_strings _ items) (by rintro _ - - ⟨⟩)
        "on_collision")
      (.cons (restores_optional (fun items _ => restores_strings _ items) (by rintro _ - - ⟨⟩)
          "on_overlap")
        (.cons (restores_optional (fun items _ => restores_strings _ items) (by rintro _ - - ⟨⟩)
            "timers")
          (.cons
            (restores_optional
              (fun spawners member => restores_list fun spawner inside =>
                restores_spawner _ (regular.spawners spawners member spawner inside))
              (by rintro _ - - ⟨⟩) "spawners")
            (.cons
              (restores_optional
                (fun actions member => restores_list fun action inside =>
                  restores_action _ (regular.actions actions member action inside))
                (by rintro _ - - ⟨⟩) "actions") .nil))))
  refine restores_record fields
    (fun l => (l.onCollision, l.onOverlap, l.timers, l.spawners, l.actions, ()))
    (fun _ => rfl) ?_ ?_ "struct CustomLogic"
  · simp [logicSchema]
  · simp [Logic.lengths]

theorem restores_scene (room : Nat) {s : Scene S} (regular : s.Regular) :
    (scene .tree room).Restores room s.toJson s (AllFinite s.lengths) := by
  have fields : (sceneSchema .tree (room - 1)).Restores (room - 1) _
      (s.name, s.objects, s.logic, ()) _ :=
    .cons (restores_required (restores_string _ s.name) "name")
      (.cons (restores_required
          (restores_list fun object inside =>
            restores_blueprint object (regular.objects object inside) _)
          "objects")
        (.cons (restores_optional (fun l member => restores_logic _ (regular.logic l member))
            (by rintro _ - - ⟨⟩) "custom_logic") .nil))
  refine restores_record fields
    (fun s => (s.name, s.objects, s.logic, ())) (fun _ => rfl) ?_ ?_ "struct Scene"
  · simp [sceneSchema]
  · simp [Scene.lengths]

/-- A regular game is restored exactly if it is finite. -/
theorem restores_spec (room : Nat) {s : Spec S} (regular : s.Regular) :
    (spec .tree room).Restores room s.toJson s (AllFinite s.lengths) := by
  have fields : (specSchema .tree (room - 1)).Restores (room - 1) _
      (s.title, s.description, s.settings, s.assets, s.scenes, s.controlsDescription, s.keyConcepts, ())
      _ :=
    .cons (restores_required (restores_string _ s.title) "title")
      (.cons (restores_required (restores_string _ s.description) "description")
        (.cons (restores_required (restores_settings _ regular.settings) "game")
          (.cons (restores_withDefault (restores_list fun a _ => restores_asset _ a) "assets" [])
            (.cons (restores_required
                (restores_list fun scene inside => restores_scene _ (regular.scenes scene inside))
                "scenes")
              (.cons (restores_withDefault (restores_strings _ s.controlsDescription)
                  "controls_description" [])
                (.cons (restores_withDefault (restores_strings _ s.keyConcepts) "key_concepts" [])
                  .nil))))))
  refine restores_record fields
    (fun s => (s.title, s.description, s.settings, s.assets, s.scenes, s.controlsDescription,
      s.keyConcepts, ()))
    (fun _ => rfl) ?_ ?_ "struct GameSpec"
  · simp [specSchema]
  · simp [lengths, Physics.lengths]

end

end Form

/-! ### A game read again -/

/-- Whatever order the members of the written game come back in, it is read as the same game exactly
if it is finite. -/
theorem decode_eq_ok_iff [Scalar.Exact S] {spec : Spec S} (regular : spec.Regular) {tree : Json}
    (spells : tree.Spells spec.toJson) : decode tree = .ok spec ↔ AllFinite spec.lengths :=
  (Form.restores_spec tree.depth regular).reads tree spells (Nat.le_refl _)

theorem distinct_toJson [Scalar.Exact S] {spec : Spec S} (regular : spec.Regular) :
    spec.toJson.Distinct :=
  (Form.restores_spec 0 regular).distinct

theorem allFinite_single {lengths : List Float32} :
    AllFinite lengths ↔ ∀ x ∈ lengths, x.isFinite = true := by
  have same : ∀ x : Float32, Scalar.isFinite x = x.isFinite := by
    intro x
    change (if x.isFinite then some (Number.widen x) else none).isSome = x.isFinite
    cases x.isFinite <;> rfl
  simp only [AllFinite, same]

/-- A game that was accepted is read again from its written tree exactly if none of its lengths
overflowed, with the members of objects in the order of their declaration or sorted by name. -/
theorem decode_toJson_iff {text : String} {spec : Spec Float32} (accepted : ofText text = .ok spec) :
    (decode spec.toJson = .ok spec ↔ ∀ x ∈ spec.lengths, x.isFinite = true) ∧
      (decode spec.toJson.canonical = .ok spec ↔ ∀ x ∈ spec.lengths, x.isFinite = true) := by
  obtain ⟨-, regular⟩ := ensured_of_ofText (Form.ensures_regular .text) accepted
  rw [← allFinite_single]
  exact ⟨decode_eq_ok_iff regular (distinct_toJson regular).spells,
    decode_eq_ok_iff regular spec.toJson.spells_canonical⟩

end Spec

namespace Sample

/-- A game of a shooter with free parameters, whose shots have a radius. -/
def shooter (radius : String) : String :=
  r#"["","",[8,6,"",[true,[0,9.81]]],[],[["",[["me","group",0.1,0,null,null,null,null,null,"# ++
    r#"[null,null,null,null,null,null,["it","circle",0,0,null,[null,null,"# ++ radius ++
    r#"]]],null,[2.5,null]]]]]]"#

end Sample

/-- Shots of a finite size are read again; those of a size beyond all numbers are read as shots without
a size. -/
theorem Spec.decode_toJson_shooter :
    ∃ small wide : Spec Float32,
      ofText (Sample.shooter "8.25") = .ok small ∧ decode small.toJson = .ok small ∧
        ofText (Sample.shooter "1e39") = .ok wide ∧ decode wide.toJson.canonical ≠ .ok wide := by
  have fine : (ofText (Sample.shooter "8.25") : Except SpecError (Spec Float32)).toOption.any
      (fun spec => spec.lengths.all (·.isFinite)) = true := by decide +kernel
  have broken : (ofText (Sample.shooter "1e39") : Except SpecError (Spec Float32)).toOption.any
      (fun spec => !spec.lengths.all (·.isFinite)) = true := by decide +kernel
  obtain ⟨small, accepted, finite⟩ := exists_ok_of_any fine
  obtain ⟨wide, admitted, infinite⟩ := exists_ok_of_any broken
  refine ⟨small, wide, accepted, (decode_toJson_iff accepted).1.mpr (List.all_eq_true.mp finite),
    admitted, fun again => ?_⟩
  have every := List.all_eq_true.mpr ((decode_toJson_iff admitted).2.mp again)
  rw [every] at infinite
  cases infinite

end Arcade
