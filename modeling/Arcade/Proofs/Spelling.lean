import Mathlib.Logic.Relation
import Arcade.Proofs.Following
import Arcade.Spec.Reader

/-! A game does not depend on how it is spelled. Every record of a game follows itself through
respellings, from text to tree and back, whatever levels of nesting are left. -/

namespace Arcade

/-- Numbers whose zero is the zero of the doubles. -/
class Scalar.Centered (S : Type) [Scalar S] : Prop where
  ofDouble_zero : Scalar.ofDouble (0 : Float) = (0 : S)

instance : Scalar.Centered Float32 where
  ofDouble_zero := by decide +kernel

namespace Spec.Form

open Arcade.Spec.Outline (Part Record Entry Respells)
open Arcade.Field (follows_required follows_withDefault follows_optional)
open Arcade.Reader (follows_string follows_bool follows_word32 follows_variant follows_list)

variable {S : Type} [Scalar S] {part : Part} {levels : Nat}

theorem follows_scalar : (scalar : Reader S).Follows scalar part levels :=
  (Reader.follows_number "f32").map Scalar.ofNumber

theorem reads_zero [Scalar.Centered S] :
    ∀ tree ∈ Outline.zero, tree.depth ≤ levels → (scalar : Reader S) tree.toDraft = .ok 0 := by
  simp only [Outline.zero, List.forall_mem_cons]
  exact ⟨fun _ => rfl, fun _ => congrArg Except.ok Scalar.Centered.ofDouble_zero, by simp⟩

/-- A length that is zero when it is missing. -/
theorem follows_length [Scalar.Centered S] (name : String) :
    (Field.withDefault name 0 (scalar : Reader S)).Follows (Field.withDefault name 0 scalar)
      (.withDefault name .plain Outline.zero) levels :=
  follows_withDefault follows_scalar reads_zero name

/-- A record of a game follows itself when its fields do. -/
theorem follows_record {after before : Schema τ} {record : Record} {levels room : Nat}
    (fields : room ≠ 0 → levels ≠ 0 → Schema.Follows (levels - 1) after before record.entries)
    (other origin : Origin) (name : String) (make : τ → α) :
    Reader.Follows (fun draft => (after.read other name levels draft).map make)
      (fun draft => (before.read origin name room draft).map make) (.record record) levels :=
  (Schema.Follows.read fields id other origin name name).map make

/-- A list that is empty when it is missing. -/
theorem follows_collection {after before : Nat → Reader α}
    (own : ∀ levels room, (after levels).Follows (before room) part levels) (levels room : Nat)
    (name : String) :
    (Field.withDefault name [] (Reader.list after levels)).Follows
      (Field.withDefault name [] (Reader.list before room))
      (.withDefault name (.list part) [.array []]) levels := by
  refine follows_withDefault (follows_list own levels room) (fun tree listed deep => ?_) name
  cases List.mem_singleton.mp listed
  cases levels with
  | zero => simp [Json.depth] at deep
  | succ levels => rfl

section

variable (other origin : Origin) (levels room : Nat)

/-- A text that may be left out. -/
theorem follows_caption (name : String) :
    (Field.optional name Reader.string).Follows (Field.optional name Reader.string)
      (.optional name .plain) levels :=
  follows_optional follows_string name

theorem follows_extent (name : String) :
    (Field.optional name (scalar : Reader S)).Follows (Field.optional name scalar)
      (.optional name .plain) levels :=
  follows_optional follows_scalar name

theorem follows_strings : (strings levels).Follows (strings room) (.list .plain) levels :=
  follows_list (fun _ _ => follows_string) levels room

theorem follows_asset : (asset other levels).Follows (asset origin room) (.record .asset) levels :=
  follows_record (fun _ _ =>
    .cons (follows_required follows_string "key")
      (.cons (follows_required (follows_variant assetKinds _ _ _ _) "type")
        (.cons (follows_required follows_string "url") .nil))) other origin _ _

theorem follows_label : (label other levels).Follows (label origin room) (.record .label) levels :=
  follows_record (fun _ _ =>
    .cons (follows_required follows_string "text")
      (.cons (follows_caption _ "font_size") (.cons (follows_caption _ "fill") .nil)))
    other origin _ _

theorem follows_shape :
    (shape other levels : Reader (Shape S)).Follows (shape origin room) (.record .shape) levels :=
  follows_record (fun _ _ =>
    .cons (follows_extent _ "width")
      (.cons (follows_extent _ "height")
        (.cons (follows_extent _ "radius") (.cons (follows_caption _ "color") .nil))))
    other origin _ _

/-- The symbol has two names. -/
theorem follows_emoji :
    (emoji other levels : Reader (Emoji S)).Follows (emoji origin room) (.record .emoji) levels :=
  follows_record (fun _ _ =>
    .cons ⟨rfl, rfl, rfl, follows_string, by rintro _ ⟨⟩⟩ (.cons (follows_extent _ "size") .nil))
    other origin _ _

theorem follows_variance :
    (variance other levels : Reader (Variance S)).Follows (variance origin room) (.record .variance)
      levels :=
  follows_record (fun _ _ =>
    .cons (follows_required follows_scalar "x_min")
      (.cons (follows_required follows_scalar "x_max")
        (.cons (follows_extent _ "y_min") (.cons (follows_extent _ "y_max") .nil))))
    other origin _ _

theorem follows_effect : (effect levels).Follows (effect room) .effect levels := by
  refine Tagged.follows_read (fun label body known => ?_) _ levels room
  have listed := mem_of_lookup? known
  simp only [effectKinds, List.mem_cons, List.not_mem_nil, or_false, Prod.mk.injEq] at listed
  rcases listed with ⟨rfl, rfl⟩ | ⟨rfl, rfl⟩ | ⟨rfl, rfl⟩ | ⟨rfl, rfl⟩
  · exact ⟨.score, rfl, fun _ => Tagged.follows_parts
      (.cons (follows_required (Reader.follows_wholeBetween _ _ _) "points") .nil) _ _⟩
  · exact ⟨.nothing, rfl, Tagged.follows_bare _⟩
  · exact ⟨.nothing, rfl, Tagged.follows_bare _⟩
  · exact ⟨.caption, rfl, fun _ => Tagged.follows_parts
      (.cons (follows_required follows_string "object_id")
        (.cons (follows_required follows_string "text") .nil)) _ _⟩

theorem follows_action :
    (action other levels).Follows (action origin room) (.record .action) levels :=
  follows_record (fun _ _ =>
    .cons (follows_required follows_string "name")
      (.cons (follows_required (follows_effect _ _) "effect") .nil)) other origin _ _

theorem follows_controlsSchema {after before : Reader (Blueprint S)}
    (own : room ≠ 0 → levels ≠ 0 → after.Follows before (.record .blueprint) (levels - 1)) :
    Reader.Follows
      (fun draft => ((controlsSchema after).read other "struct Controls" levels draft).map controlsOf)
      (fun draft => ((controlsSchema before).read origin "struct Controls" room draft).map controlsOf)
      (.record .controls) levels :=
  follows_record (fun full left =>
    .cons (follows_caption _ "left")
      (.cons (follows_caption _ "right")
        (.cons (follows_caption _ "jump")
          (.cons (follows_caption _ "up")
            (.cons (follows_caption _ "down")
              (.cons (follows_caption _ "shoot")
                (.cons (follows_optional (own full left) "projectile")
                  (.cons (follows_extent _ "speed")
                    (.cons (follows_extent _ "jump_velocity") .nil)))))))))
    other origin _ _

end

section

variable [Scalar.Centered S] (other origin : Origin) (levels room : Nat)

theorem follows_gravity :
    (gravity other levels : Reader (Vec S)).Follows (gravity origin room) (.record .gravity) levels :=
  follows_record (fun _ _ =>
    .cons (follows_length "x") (.cons (follows_required follows_scalar "y") .nil)) other origin _ _

theorem follows_velocity :
    (velocity other levels : Reader (Vec S)).Follows (velocity origin room) (.record .velocity)
      levels :=
  follows_record (fun _ _ =>
    .cons (follows_length "x") (.cons (follows_length "y") .nil)) other origin _ _

theorem follows_physics :
    (physics other levels : Reader (Physics S)).Follows (physics origin room) (.record .physics)
      levels :=
  follows_record (fun _ _ =>
    .cons (follows_required Reader.follows_bool "enabled")
      (.cons (follows_required (follows_gravity _ _ _ _) "gravity")
        (.cons (follows_withDefault Reader.follows_bool (by simp [Json.toDraft, Reader.bool]) "debug")
          .nil)))
    other origin _ _

theorem follows_settings :
    (settings other levels : Reader (Settings S)).Follows (settings origin room) (.record .settings)
      levels :=
  follows_record (fun _ _ =>
    .cons (follows_required follows_word32 "width")
      (.cons (follows_required follows_word32 "height")
        (.cons
          (follows_withDefault follows_string
            (by simp [Json.toDraft, Reader.string, defaultBackground]) "background_color")
          (.cons (follows_required (follows_physics _ _ _ _) "physics") .nil))))
    other origin _ _

theorem follows_body :
    (body other levels : Reader (Body S)).Follows (body origin room) (.record .body) levels :=
  follows_record (fun _ _ =>
    .cons (follows_required (follows_variant roles _ _ _ _) "body")
      (.cons (follows_extent _ "bounce")
        (.cons (follows_optional Reader.follows_bool "collide_world_bounds")
          (.cons (follows_optional (follows_velocity _ _ _ _) "velocity") .nil))))
    other origin _ _

theorem follows_blueprintSchema {after before : Reader (Controls S (Blueprint S))}
    (own : room ≠ 0 → levels ≠ 0 → after.Follows before (.record .controls) (levels - 1)) :
    Reader.Follows
      (fun draft => ((blueprintSchema other (levels - 1) after).read other "struct GameObject" levels
        draft).map blueprintOf)
      (fun draft => ((blueprintSchema origin (room - 1) before).read origin "struct GameObject" room
        draft).map blueprintOf)
      (.record .blueprint) levels :=
  follows_record (fun full left =>
    .cons (follows_required follows_string "id")
      (.cons (follows_required (follows_variant kinds _ _ _ _) "type")
        (.cons (follows_length "x")
          (.cons (follows_length "y")
            (.cons (follows_caption _ "texture")
              (.cons (follows_optional (follows_shape _ _ _ _) "shape")
                (.cons (follows_optional (follows_label _ _ _ _) "text")
                  (.cons (follows_optional (follows_emoji _ _ _ _) "emoji")
                    (.cons (follows_optional (follows_body _ _ _ _) "physics")
                      (.cons (follows_optional (own full left) "controls")
                        (.cons
                          (follows_optional (follows_variant behaviorKinds _ _ _ _) "behavior")
                          (.cons (follows_optional (Reader.follows_tree _ _) "behavior_params")
                            .nil))))))))))))
    other origin _ _

end

/-! Controls and templates hold each other. The recursion is on the levels on both sides; where either
has none left, nothing was read or nothing is left to be read. -/

mutual

theorem follows_controls [Scalar.Centered S] (other origin : Origin) : ∀ levels room,
    (controls other levels : Reader (Controls S (Blueprint S))).Follows (controls origin room)
      (.record .controls) levels
  | 0, 0 => follows_controlsSchema other origin 0 0 (absurd rfl)
  | 0, room + 1 => follows_controlsSchema other origin 0 (room + 1) fun _ => absurd rfl
  | levels + 1, 0 => follows_controlsSchema other origin (levels + 1) 0 (absurd rfl)
  | levels + 1, room + 1 => follows_controlsSchema other origin (levels + 1) (room + 1)
      fun _ _ => follows_blueprint other origin levels room

theorem follows_blueprint [Scalar.Centered S] (other origin : Origin) : ∀ levels room,
    (blueprint other levels : Reader (Blueprint S)).Follows (blueprint origin room)
      (.record .blueprint) levels
  | 0, 0 => follows_blueprintSchema other origin 0 0 (absurd rfl)
  | 0, room + 1 => follows_blueprintSchema other origin 0 (room + 1) fun _ => absurd rfl
  | levels + 1, 0 => follows_blueprintSchema other origin (levels + 1) 0 (absurd rfl)
  | levels + 1, room + 1 => follows_blueprintSchema other origin (levels + 1) (room + 1)
      fun _ _ => follows_controls other origin levels room

end

section

variable [Scalar.Centered S] (other origin : Origin) (levels room : Nat)

theorem follows_spawner :
    (spawner other levels : Reader (Spawner S)).Follows (spawner origin room) (.record .spawner)
      levels :=
  follows_record (fun _ _ =>
    .cons (follows_required follows_string "id")
      (.cons (follows_required (follows_blueprint _ _ _ _) "template")
        (.cons (follows_required follows_word32 "interval")
          (.cons (follows_optional follows_word32 "max_count")
            (.cons (follows_required follows_string "spawn_area")
              (.cons (follows_optional (follows_variance _ _ _ _) "position_variance") .nil))))))
    other origin _ _

theorem follows_logic :
    (logic other levels : Reader (Logic S)).Follows (logic origin room) (.record .logic) levels :=
  follows_record (fun _ _ =>
    .cons (follows_optional (follows_strings _ _) "on_collision")
      (.cons (follows_optional (follows_strings _ _) "on_overlap")
        (.cons (follows_optional (follows_strings _ _) "timers")
          (.cons (follows_optional (follows_list (follows_spawner _ _) _ _) "spawners")
            (.cons (follows_optional (follows_list (follows_action _ _) _ _) "actions") .nil)))))
    other origin _ _

theorem follows_scene :
    (scene other levels : Reader (Scene S)).Follows (scene origin room) (.record .scene) levels :=
  follows_record (fun _ _ =>
    .cons (follows_required follows_string "name")
      (.cons (follows_required (follows_list (follows_blueprint _ _) _ _) "objects")
        (.cons (follows_optional (follows_logic _ _ _ _) "custom_logic") .nil)))
    other origin _ _

/-- A game is read from a respelled document as it was read before. -/
theorem follows_spec :
    (spec other levels : Reader (Spec S)).Follows (spec origin room) (.record .game) levels :=
  follows_record (fun _ _ =>
    .cons (follows_required follows_string "title")
      (.cons (follows_required follows_string "description")
        (.cons (follows_required (follows_settings _ _ _ _) "game")
          (.cons (follows_collection (follows_asset _ _) _ _ "assets")
            (.cons (follows_required (follows_list (follows_scene _ _) _ _) "scenes")
              (.cons (follows_collection (fun _ _ => follows_string) _ _ "controls_description")
                (.cons (follows_collection (fun _ _ => follows_string) _ _ "key_concepts") .nil)))))))
    other origin _ _

end

/-- Whatever was read of a document, from text or from a tree, is read of all its spellings. -/
theorem spec_of_respells [Scalar.Centered S] {tree page : Json} {origin : Origin} {room : Nat}
    {spec : Spec S} (read : Form.spec origin room tree.toDraft = .ok spec)
    (respells : Relation.ReflTransGen (Respells (.record .game)) tree page) (other : Origin)
    {levels : Nat} (deep : page.depth ≤ levels) : Form.spec other levels page.toDraft = .ok spec := by
  induction respells generalizing other levels with
  | refl => exact follows_spec other origin levels room tree tree spec (.same tree) deep read
  | @tail before page _ last ih =>
    have earlier := ih .tree (Nat.le_refl before.depth)
    exact follows_spec other .tree levels before.depth before page spec last deep earlier

end Form

open Outline (Respells)

/-- A game that is decoded from a tree is decoded from every other spelling of it, and is read from every
text of one that is not nested too deeply. -/
theorem decode_of_respells {tree page : Json} {spec : Spec Float32} (read : decode tree = .ok spec)
    (respells : Relation.ReflTransGen (Respells (.record .game)) tree page) :
    decode page = .ok spec ∧
      ∀ text, Json.Text.draft text = (page.toDraft, false) → page.depth ≤ Form.textRoom →
        parse text = .ok spec := by
  refine ⟨Form.spec_of_respells read respells .tree (Nat.le_refl page.depth), ?_⟩
  intro text drafted deep
  have again := Form.spec_of_respells read respells .text deep
  simp [parse, Form.ofText, drafted, again, bind, Except.bind]

end Spec

namespace Sample

/-- The members of a game with a pull and an action. -/
def document (gravity effect : Json) : List (String × Json) :=
  [("title", .string ""), ("description", .string ""),
    ("game", .object [("width", .int 8), ("height", .int 6),
      ("physics", .object [("enabled", .bool true), ("gravity", gravity)])]),
    ("scenes", .array [.object [("name", .string ""), ("objects", .array []),
      ("custom_logic", .object [("actions", .array [.object [("name", .string "bonus"),
        ("effect", effect)]])])]])]

def pull : Json := .object [("y", .int 5)]

/-- The pull as the array of its fields. -/
def pair : Json := .array [.int 0, .int 5]

def bonus : Json := .object [("points", .int 3), ("type", .string "updateScore")]

/-- The bonus with its kind first and a note last. -/
def noted : Json := .object [("type", .string "updateScore"), ("points", .int 3), ("note", .null)]

end Sample

open Spec.Outline (Respells) in
/-- A game is read again with its pull as a pair, a note beside its bonus and its members back to front. -/
theorem Spec.decode_of_respells_bonus :
    ∃ spec : Spec Float32, decode (.object (Sample.document Sample.pull Sample.bonus)) = .ok spec ∧
      decode (.object (Sample.document Sample.pair Sample.noted).reverse) = .ok spec := by
  have told : (decode (.object (Sample.document Sample.pull Sample.bonus)) :
      Except JsonError (Spec Float32)).toOption.any (fun spec => spec.title = "") = true := by
    decide +kernel
  obtain ⟨spec, read, -⟩ := exists_ok_of_any told
  refine ⟨spec, read, (decode_of_respells read ?_).1⟩
  have paired : Respells (.record .game) (.object (Sample.document Sample.pull Sample.bonus))
      (.object (Sample.document Sample.pair Sample.bonus)) := by
    refine .member [_, _] _ (List.mem_of_getElem? (i := 2) rfl) rfl rfl ?_
    refine .member [_, _] _ (List.mem_of_getElem? (i := 3) rfl) rfl rfl ?_
    refine .member [_] _ (List.mem_of_getElem? (i := 1) rfl) rfl rfl ?_
    exact .listed (.cons (.inr ⟨rfl, List.mem_cons_self⟩) (.cons (.inl List.mem_cons_self) .nil))
  have noted : Respells (.record .game) (.object (Sample.document Sample.pair Sample.bonus))
      (.object (Sample.document Sample.pair Sample.noted)) := by
    refine .member [_, _, _] _ (List.mem_of_getElem? (i := 4) rfl) rfl rfl (.item [] _ ?_)
    refine .member [_, _] _ (List.mem_of_getElem? (i := 2) rfl) rfl rfl ?_
    refine .member [] _ (List.mem_of_getElem? (i := 4) rfl) rfl rfl (.item [] _ ?_)
    refine .member [_] _ (List.mem_of_getElem? (i := 1) rfl) rfl rfl ?_
    have strange : Outline.Record.score.Ignores "note" := by
      rintro entry (_ | ⟨_, ⟨⟩⟩)
      decide
    exact .effect [_] [] [] [_, _] rfl (by decide) (.widened [_] [] strange .null)
  have turned : Respells (.record .game) (.object (Sample.document Sample.pair Sample.noted))
      (.object (Sample.document Sample.pair Sample.noted).reverse) :=
    .permuted (by simp [Sample.document]) (List.reverse_perm _).symm
  exact ((Relation.ReflTransGen.single paired).tail noted).tail turned

end Arcade
