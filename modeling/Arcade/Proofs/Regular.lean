import Arcade.Proofs.Reading
import Arcade.Proofs.Reordering

/-! What holds of every game that was read, beside the sizes of its world: whole numbers lie within
the range of their words, and free parameters are canonical trees, down to the innermost template. -/

namespace Arcade

namespace Reader

variable {read : Reader α} {holds : α → Prop}

theorem ensures_mismatch (expected : String) (holds : α → Prop) :
    Reader.Ensures (mismatch expected) holds :=
  fun draft value read => absurd read (mismatch_ne_ok expected draft value)

theorem of_option_eq_some {draft : Draft} {value : α} (done : option read draft = .ok (some value)) :
    draft ≠ .null ∧ read draft = .ok value := by
  unfold option at done
  split at done
  · cases done
  · cases done
  · rename_i present _
    obtain ⟨found, reads, same⟩ := map_eq_ok done
    cases same
    exact ⟨present, reads⟩

theorem Ensures.option (ensures : read.Ensures holds) :
    (option read).Ensures fun part => ∀ value ∈ part, holds value := by
  rintro draft _ done value ⟨⟩
  exact ensures draft value (of_option_eq_some done).2

theorem Ensures.items (ensures : read.Ensures holds) {drafts : List Draft} {values : List α}
    (done : items read drafts = .ok values) : ∀ value ∈ values, holds value := by
  induction drafts generalizing values with
  | nil =>
    cases done
    simp
  | cons draft drafts ih =>
    obtain ⟨first, here, done⟩ := bind_eq_ok done
    obtain ⟨others, there, done⟩ := bind_eq_ok done
    cases done
    exact List.forall_mem_cons.mpr ⟨ensures draft first here, ih there⟩

theorem ensures_list {read : Nat → Reader α} (ensures : ∀ room, (read room).Ensures holds)
    (room : Nat) : (list read room).Ensures fun values => ∀ value ∈ values, holds value := by
  intro draft values done
  unfold list at done
  split at done
  · cases done
  · obtain ⟨found, each, done⟩ := bind_eq_ok done
    obtain ⟨-, -, done⟩ := bind_eq_ok done
    cases done
    exact (ensures _).items each
  · exact absurd done (mismatch_ne_ok _ _ _)

theorem null_of_settle {draft : Draft} {room : Nat} (done : draft.settle room = .ok .null) :
    draft = .null := by
  cases draft with
  | null => rfl
  | array items torn =>
    cases room with
    | zero => cases done
    | succ room =>
      obtain ⟨settled, -, done⟩ := bind_eq_ok done
      cases torn <;> cases done
  | object members closing =>
    cases room with
    | zero => cases done
    | succ room =>
      obtain ⟨settled, -, done⟩ := bind_eq_ok done
      cases closing <;> cases done
  | _ => cases done

/-- A free tree is canonical, and an absent one is not taken for `null`. -/
theorem ensures_parameters (room : Nat) :
    (option (tree room)).Ensures fun part => ∀ tree ∈ part, tree.canonical = tree ∧ tree ≠ .null := by
  rintro draft _ done tree ⟨⟩
  obtain ⟨present, done⟩ := of_option_eq_some done
  unfold Reader.tree at done
  cases settled : draft.settle room with
  | error kind =>
    rw [settled] at done
    cases done
  | ok source =>
    rw [settled] at done
    cases done
    refine ⟨source.canonical_canonical, fun empty => present ?_⟩
    cases source with
    | null => exact null_of_settle settled
    | _ => cases empty

end Reader

theorem Field.Ensures.optional {read : Reader α} {holds : α → Prop} (ensures : read.Ensures holds)
    (name : String) : (optional name read).Ensures fun part => ∀ value ∈ part, holds value :=
  ⟨ensures.option, by rintro _ ⟨⟩ _ ⟨⟩, by rintro _ ⟨⟩ _ ⟨⟩⟩

namespace Tagged

theorem mem_of_variantName {kinds : List (String × α)} {draft : Draft} {body : α}
    (done : Reader.variantName kinds draft = .ok body) : ∃ name, (name, body) ∈ kinds := by
  unfold Reader.variantName at done
  split at done
  · unfold Reader.named at done
    split at done
    · rename_i found
      cases done
      exact ⟨_, mem_of_lookup? found⟩
    · cases done
  · exact absurd done (Reader.mismatch_ne_ok _ _ _)

theorem mem_of_gather {kinds : List (String × α)} {room : Nat} {kind : Option α}
    {aside rest : List (String × Json)} {members : List (Option String × Draft)} {body : α}
    (known : ∀ body ∈ kind, ∃ name, (name, body) ∈ kinds)
    (done : gather room kinds kind aside members = .ok (some body, rest)) :
    ∃ name, (name, body) ∈ kinds := by
  induction members generalizing kind aside with
  | nil =>
    cases done
    exact known body rfl
  | cons member members ih =>
    obtain ⟨name, draft⟩ := member
    cases name with
    | none => cases done
    | some name =>
      simp only [gather] at done
      split at done
      · split at done
        · cases done
        · obtain ⟨found, named, done⟩ := bind_eq_ok done
          refine ih ?_ done
          rintro _ ⟨⟩
          exact mem_of_variantName named
      · obtain ⟨value, -, done⟩ := bind_eq_ok done
        exact ih known done

/-- A tagged value meets what the readers of all kinds ensure. -/
theorem ensures_read {kinds : List (String × Reader α)} {holds : α → Prop}
    (ensures : ∀ kind ∈ kinds, kind.2.Ensures holds) (name : String) (room : Nat) :
    (read name kinds room).Ensures holds := by
  intro draft value done
  unfold read at done
  split at done
  · cases done
  · cases done
  · obtain ⟨⟨kind, aside⟩, gathered, done⟩ := bind_eq_ok done
    simp only at done
    split at done
    · split at done
      · obtain ⟨label, member⟩ := mem_of_gather (by simp) gathered
        exact ensures _ member _ _ done
      · cases done
    · cases done
    · cases done
  · split at done
    · obtain ⟨-, -, done⟩ := bind_eq_ok done
      cases done
    · obtain ⟨body, named, done⟩ := bind_eq_ok done
      obtain ⟨aside, -, done⟩ := bind_eq_ok done
      obtain ⟨-, -, done⟩ := bind_eq_ok done
      obtain ⟨label, member⟩ := mem_of_variantName named
      exact ensures _ member _ _ done
  · exact absurd done (Reader.mismatch_ne_ok _ _ _)

end Tagged

namespace Spec

variable {S : Type}

mutual

/-- The parameters of a blueprint and of its templates are canonical. -/
def Blueprint.Regular : Blueprint S → Prop
  | ⟨_, _, _, _, _, _, _, _, _, controls, _, parameters⟩ =>
    ControlsRegular controls ∧ ∀ tree ∈ parameters, tree.canonical = tree ∧ tree ≠ .null

def ControlsRegular : Option (Controls S (Blueprint S)) → Prop
  | none => True
  | some ⟨_, _, _, _, _, _, projectile, _, _⟩ => TemplateRegular projectile

def TemplateRegular : Option (Blueprint S) → Prop
  | none => True
  | some template => template.Regular

end

structure Spawner.Regular (spawner : Spawner S) : Prop where
  template : spawner.template.Regular
  interval : spawner.interval < UInt32.size
  maxCount : ∀ count ∈ spawner.maxCount, count < UInt32.size

/-- Points are signed words. -/
def Effect.Regular : Effect → Prop
  | updateScore points => -0x80000000 ≤ points ∧ points ≤ 0x7FFFFFFF
  | _ => True

structure Logic.Regular (logic : Logic S) : Prop where
  spawners : ∀ spawners ∈ logic.spawners, ∀ spawner ∈ spawners, spawner.Regular
  actions : ∀ actions ∈ logic.actions, ∀ action ∈ actions, action.effect.Regular

structure Scene.Regular (scene : Scene S) : Prop where
  objects : ∀ object ∈ scene.objects, object.Regular
  logic : ∀ logic ∈ scene.logic, logic.Regular

/-- Whole numbers are words, and free parameters are canonical. -/
structure Regular (spec : Spec S) : Prop where
  settings : spec.settings.Fits
  scenes : ∀ scene ∈ spec.scenes, scene.Regular

namespace Form

variable [Scalar S]

open Arcade.Field (ensures_anything ensures_required)

theorem ensures_controlsSchema {template : Reader (Blueprint S)}
    (ensures : template.Ensures Blueprint.Regular) (origin : Origin) (room : Nat) :
    Reader.Ensures
      (fun draft => ((controlsSchema template).read origin "struct Controls" room draft).map controlsOf)
      fun controls => ControlsRegular (some controls) := by
  let conditions : (controlsSchema template).Conditions :=
    ((fun _ => True), (fun _ => True), (fun _ => True), (fun _ => True), (fun _ => True),
      (fun _ => True), (fun part => ∀ value ∈ part, value.Regular), (fun _ => True),
      (fun _ => True), ())
  have fields : (controlsSchema template).Ensures conditions :=
    ⟨ensures_anything _, ensures_anything _, ensures_anything _, ensures_anything _,
      ensures_anything _, ensures_anything _, .optional ensures "projectile", ensures_anything _,
      ensures_anything _, trivial⟩
  refine (Schema.ensures_read fields origin "struct Controls" room).map ?_
  rintro ⟨left, right, jump, up, down, shoot, projectile, speed, jumpVelocity, ⟨⟩⟩ meets
  have regular := meets.2.2.2.2.2.2.1
  cases projectile with
  | none => simp [controlsOf, ControlsRegular, TemplateRegular]
  | some template => simpa [controlsOf, ControlsRegular, TemplateRegular] using regular template rfl

theorem ensures_blueprintSchema {controls : Reader (Controls S (Blueprint S))}
    (ensures : controls.Ensures fun controls => ControlsRegular (some controls)) (origin : Origin)
    (levels room : Nat) :
    Reader.Ensures
      (fun draft => ((blueprintSchema origin levels controls).read origin "struct GameObject" room
        draft).map blueprintOf)
      Blueprint.Regular := by
  let conditions : (blueprintSchema origin levels controls).Conditions :=
    ((fun _ => True), (fun _ => True), (fun _ => True), (fun _ => True), (fun _ => True),
      (fun _ => True), (fun _ => True), (fun _ => True), (fun _ => True),
      (fun part => ∀ value ∈ part, ControlsRegular (some value)), (fun _ => True),
      (fun part => ∀ tree ∈ part, tree.canonical = tree ∧ tree ≠ .null), ())
  have fields : (blueprintSchema origin levels controls).Ensures conditions :=
    ⟨ensures_anything _, ensures_anything _, ensures_anything _, ensures_anything _,
      ensures_anything _, ensures_anything _, ensures_anything _, ensures_anything _,
      ensures_anything _, .optional ensures "controls", ensures_anything _,
      ⟨Reader.ensures_parameters levels, by rintro _ ⟨⟩ _ ⟨⟩, by rintro _ ⟨⟩ _ ⟨⟩⟩, trivial⟩
  refine (Schema.ensures_read fields origin "struct GameObject" room).map ?_
  rintro ⟨id, kind, x, y, texture, shape, label, emoji, body, controls, behavior, parameters, ⟨⟩⟩ meets
  obtain ⟨-, -, -, -, -, -, -, -, -, regular, -, free, -⟩ := meets
  refine ⟨?_, free⟩
  cases controls with
  | none => simp [ControlsRegular]
  | some controls => exact regular controls rfl

theorem ensures_templates (origin : Origin) (room : Nat) :
    (controls origin room : Reader (Controls S (Blueprint S))).Ensures
        (fun controls => ControlsRegular (some controls)) ∧
      (blueprint origin room : Reader (Blueprint S)).Ensures Blueprint.Regular := by
  induction room with
  | zero =>
    exact ⟨ensures_controlsSchema (Reader.ensures_mismatch _ _) origin 0,
      ensures_blueprintSchema (Reader.ensures_mismatch _ _) origin 0 0⟩
  | succ room ih =>
    exact ⟨ensures_controlsSchema ih.2 origin (room + 1),
      ensures_blueprintSchema ih.1 origin room (room + 1)⟩

theorem ensures_spawner (origin : Origin) (room : Nat) :
    (spawner origin room : Reader (Spawner S)).Ensures Spawner.Regular := by
  let conditions : (spawnerSchema (S := S) origin (room - 1)).Conditions :=
    ((fun _ => True), Blueprint.Regular, (· < UInt32.size),
      (fun part => ∀ count ∈ part, count < UInt32.size), (fun _ => True), (fun _ => True), ())
  have fields : (spawnerSchema (S := S) origin (room - 1)).Ensures conditions :=
    ⟨ensures_anything _, ensures_required (ensures_templates origin _).2 "template",
      ensures_required Reader.ensures_word32 "interval", .optional Reader.ensures_word32 "max_count",
      ensures_anything _, ensures_anything _, trivial⟩
  refine (Schema.ensures_read fields origin "struct Spawner" room).map ?_
  intro record meets
  exact ⟨meets.2.1, meets.2.2.1, meets.2.2.2.1⟩

theorem ensures_effect (room : Nat) : (effect room).Ensures Effect.Regular := by
  refine Tagged.ensures_read ?_ "internally tagged enum ActionEffect" room
  have bare : ∀ effect : Effect, effect.Regular → (Tagged.bare effect).Ensures Effect.Regular := by
    intro effect regular draft value done
    unfold Tagged.bare at done
    split at done
    · split at done
      · cases done
        exact regular
      · cases done
    · cases done
      exact regular
  simp only [effectKinds, List.forall_mem_cons, List.not_mem_nil, false_implies, implies_true,
    and_true]
  refine ⟨?_, bare _ trivial, bare _ trivial, ?_⟩
  · have fields : (Schema.cons (Field.required "points" Reader.signed32) .nil).Ensures
        ((fun points => -0x80000000 ≤ points ∧ points ≤ 0x7FFFFFFF), ()) :=
      ⟨ensures_required (Reader.ensures_wholeBetween _ _ _) "points", trivial⟩
    refine (Schema.ensures_read fields .aside _ 1).map ?_
    intro record meets
    exact meets.1
  · exact (Reader.ensures_anything _).map fun _ _ => trivial

theorem ensures_action (origin : Origin) (room : Nat) :
    (action origin room).Ensures fun action => action.effect.Regular := by
  let conditions : (actionSchema (room - 1)).Conditions := ((fun _ => True), Effect.Regular, ())
  have fields : (actionSchema (room - 1)).Ensures conditions :=
    ⟨ensures_anything _, ensures_required (ensures_effect _) "effect", trivial⟩
  refine (Schema.ensures_read fields origin "struct ActionDefinition" room).map ?_
  intro record meets
  exact meets.2.1

theorem ensures_logic (origin : Origin) (room : Nat) :
    (logic origin room : Reader (Logic S)).Ensures Logic.Regular := by
  let conditions : (logicSchema (S := S) origin (room - 1)).Conditions :=
    ((fun _ => True), (fun _ => True), (fun _ => True),
      (fun part => ∀ spawners ∈ part, ∀ spawner ∈ spawners, Spawner.Regular spawner),
      (fun part => ∀ actions ∈ part, ∀ action ∈ actions, action.effect.Regular), ())
  have fields : (logicSchema (S := S) origin (room - 1)).Ensures conditions :=
    ⟨ensures_anything _, ensures_anything _, ensures_anything _,
      .optional (Reader.ensures_list (ensures_spawner origin) _) "spawners",
      .optional (Reader.ensures_list (ensures_action origin) _) "actions", trivial⟩
  refine (Schema.ensures_read fields origin "struct CustomLogic" room).map ?_
  intro record meets
  exact ⟨meets.2.2.2.1, meets.2.2.2.2.1⟩

theorem ensures_scene (origin : Origin) (room : Nat) :
    (scene origin room : Reader (Scene S)).Ensures Scene.Regular := by
  let conditions : (sceneSchema (S := S) origin (room - 1)).Conditions :=
    ((fun _ => True), (fun objects => ∀ object ∈ objects, Blueprint.Regular object),
      (fun part => ∀ logic ∈ part, Logic.Regular logic), ())
  have fields : (sceneSchema (S := S) origin (room - 1)).Ensures conditions :=
    ⟨ensures_anything _,
      ensures_required (Reader.ensures_list (fun room => (ensures_templates origin room).2) _) "objects",
      .optional (ensures_logic origin _) "custom_logic", trivial⟩
  refine (Schema.ensures_read fields origin "struct Scene" room).map ?_
  intro record meets
  exact ⟨meets.2.1, meets.2.2.1⟩

theorem ensures_regular (origin : Origin) (room : Nat) :
    (spec origin room : Reader (Spec S)).Ensures Regular := by
  let conditions : (specSchema (S := S) origin (room - 1)).Conditions :=
    ((fun _ => True), (fun _ => True), Settings.Fits, (fun _ => True),
      (fun scenes => ∀ scene ∈ scenes, Scene.Regular scene), (fun _ => True), (fun _ => True), ())
  have fields : (specSchema (S := S) origin (room - 1)).Ensures conditions :=
    ⟨ensures_anything _, ensures_anything _, ensures_required (ensures_settings origin _) "game",
      ensures_anything _, ensures_required (Reader.ensures_list (ensures_scene origin) _) "scenes",
      ensures_anything _, ensures_anything _, trivial⟩
  refine (Schema.ensures_read fields origin "struct GameSpec" room).map ?_
  intro record meets
  exact ⟨meets.2.2.1, meets.2.2.2.2.1⟩

end Form

end Spec

end Arcade
