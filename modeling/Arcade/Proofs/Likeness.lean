import Mathlib.Logic.Equiv.Basic
import Arcade.Proofs.Newcomer
import Arcade.Proofs.Reordering

/-! Worlds that are alike but for identities. A renaming takes the handles of one world to those of
another; two worlds are alike under it when everything that is under a handle in the one is under its
new name in the other. What is made of two such worlds by the same blueprint is alike again, as long
as the renaming also takes the handles that the one will give out next to those of the other. -/

namespace Arcade

/-! ### Renamed indexes -/

namespace Index

/-- Change all values. -/
def map (index : Index α) (change : α → β) : Index β where
  entries := index.entries.map fun entry => (entry.1, change entry.2)
  ordered := List.pairwise_map.mpr index.ordered

variable (index : Index α) (change : α → β)

@[simp] theorem get?_map (name : String) :
    (index.map change).get? name = (index.get? name).map change :=
  lookup?_map change name index.entries

@[simp] theorem contains_map (name : String) :
    (index.map change).contains name = index.contains name := by
  rw [contains, get?_map, Option.isSome_map, contains]

@[simp] theorem size_map : (index.map change).size = index.size := List.length_map _

theorem map_id (index : Index α) : index.map id = index := by
  apply ext_get?
  intro name
  rw [get?_map, Option.map_id, id]

theorem map_insert (name : String) (value : α) :
    (index.insert name value).map change = (index.map change).insert name (change value) := by
  apply ext_get?
  intro other
  rw [get?_map, get?_insert, get?_insert, get?_map]
  exact apply_ite (Option.map change) _ _ _

end Index

variable {S T : Type}

/-! ### Renamed names -/

namespace Registry

variable (rename : Handle → Handle) (registry : Registry S T)

/-- A registry in which every actor has its new name. -/
def renamed : Registry S T :=
  { registry with
    objects := registry.objects.map rename
    groups := registry.groups.map (List.map rename) }

theorem renamed_id : registry.renamed id = registry := by
  have groups : List.map (id : Handle → Handle) = id := funext List.map_id
  rw [renamed, groups, Index.map_id, Index.map_id]

theorem objectCount_renamed : (registry.renamed rename).objectCount = registry.objectCount :=
  Index.size_map _ _

theorem handle?_renamed (id : String) :
    (registry.renamed rename).handle? id = (registry.handle? id).map rename :=
  Index.get?_map _ _ _

theorem members_renamed (name : String) :
    (registry.renamed rename).members name = (registry.members name).map rename := by
  rw [members, renamed, Index.get?_map, members]
  cases registry.groups.get? name <;> rfl

theorem renamed_register (id : String) (handle : Handle) :
    (registry.register id handle).renamed rename =
      (registry.renamed rename).register id (rename handle) := by
  simp only [renamed, register, Index.map_insert]

theorem renamed_ensureGroup (name : String) :
    (registry.ensureGroup name).renamed rename = (registry.renamed rename).ensureGroup name := by
  simp only [ensureGroup, members_renamed]
  simp only [renamed, Index.map_insert]

theorem renamed_entered (blueprint : Spec.Blueprint S) (id : String) (handle : Handle) :
    (registry.entered blueprint id handle).renamed rename =
      (registry.renamed rename).entered blueprint id (rename handle) := by
  unfold entered
  split
  · rw [← renamed_register]
    rfl
  · exact renamed_register rename registry id handle

end Registry

/-- A side of an interaction under its new name. -/
def Target.renamed (rename : Handle → Handle) : Target → Target
  | .actor handle => .actor (rename handle)
  | .group name => .group name

theorem Target.renamed_id (target : Target) : target.renamed id = target := by
  cases target <;> rfl

def Binding.renamed (rename : Handle → Handle) (binding : Binding) : Binding :=
  { binding with
    first := binding.first.renamed rename
    second := binding.second.renamed rename }

theorem Binding.renamed_id (binding : Binding) : binding.renamed id = binding := by
  rw [renamed, Target.renamed_id, Target.renamed_id]

theorem Registry.target?_renamed (rename : Handle → Handle) (registry : Registry S T)
    (id : String) :
    (registry.renamed rename).target? id = (registry.target? id).map (·.renamed rename) := by
  unfold target?
  rw [handle?_renamed]
  cases registry.handle? id with
  | some handle => rfl
  | none =>
    have same : (registry.renamed rename).hasGroup id = registry.hasGroup id :=
      Index.contains_map _ _ _
    simp only [Option.map_none, same]
    split <;> rfl

/-- Rules are bound to the same sides, under their new names. -/
theorem Registry.bind_renamed (rename : Handle → Handle) (registry : Registry S T)
    (kind : Contact.Kind) (line : String) :
    (registry.renamed rename).bind kind line =
      (registry.bind kind line).map (·.renamed rename) := by
  simp only [Registry.bind, target?_renamed]
  cases Rule.Interaction.parse line with
  | error error => rfl
  | ok rule =>
    simp only [Bind.bind, Except.bind]
    cases registry.target? rule.first with
    | none => rfl
    | some first =>
      cases registry.target? rule.second with
      | none => rfl
      | some second => rfl

/-! ### Renamed worlds -/

/-- An actor under its new name. -/
def Actor.renamed (rename : Handle → Handle) (actor : Actor S T) : Actor S T :=
  { actor with handle := rename actor.handle }

def Birth.renamed (rename : Handle → Handle) (birth : Birth S) : Birth S :=
  { birth with handle := rename birth.handle }

def Shot.renamed (rename : Handle → Handle) (shot : Shot S) : Shot S :=
  { shot with owner := rename shot.owner }

def Contact.renamed (rename : Handle → Handle) (contact : Contact) : Contact :=
  { contact with
    first := rename contact.first
    second := rename contact.second }

namespace World

/-- What is in the scene of one world is in the scene of the other, under a new name if it has one.
Which games were played before, and what was told in them, does not matter. -/
structure Alike (rename : Handle ≃ Handle) (world other : World S T) : Prop where
  actors : ∀ handle, other.roster.find? (rename handle) =
    (world.roster.find? handle).map (·.renamed rename)
  births : other.births = world.births.map (·.renamed rename)
  cradles : other.cradles = world.cradles.map fun cradle => (rename cradle.1, cradle.2)
  registry : other.registry = world.registry.map (·.renamed rename)
  bindings : other.bindings = world.bindings.map (·.map (·.renamed rename))
  shots : other.shots = world.shots.map (·.map (·.renamed rename))
  contacts : other.contacts = world.contacts.map (·.map (·.renamed rename))
  diagnostics : other.diagnostics = world.diagnostics
  furniture : other.furniture = world.furniture

theorem Alike.refl (world : World S T) : Alike (.refl Handle) world world := by
  constructor
  case registry => simp [Registry.renamed_id]
  case bindings => simp [Binding.renamed_id]
  all_goals simp [Actor.renamed, Birth.renamed, Shot.renamed, Contact.renamed]

variable {rename : Handle ≃ Handle} {world other : World S T}

/-- The names are the same, also where there are none. -/
theorem Alike.names (alike : Alike rename world other) :
    other.registry.getD .empty = (world.registry.getD .empty).renamed rename := by
  rw [alike.registry]
  cases world.registry <;> rfl

/-- An id means the same actor, under its new name. -/
theorem Alike.handle? (alike : Alike rename world other) (id : String) :
    other.handle? id = (world.handle? id).map rename := by
  rw [World.handle?, alike.registry, World.handle?]
  cases world.registry with
  | none => rfl
  | some registry => exact Registry.handle?_renamed rename registry id

theorem Alike.alive (alike : Alike rename world other) (handle : Handle) :
    other.alive (rename handle) = world.alive handle := by
  rw [World.alive, Roster.contains, alike.actors, Option.isSome_map, World.alive, Roster.contains]

/-- An id is taken in both worlds or in neither. -/
theorem Alike.taken (alike : Alike rename world other) (id : String) :
    (other.handle? id).any other.alive = (world.handle? id).any world.alive := by
  rw [alike.handle?, Option.any_map]
  congr 1
  funext handle
  exact alike.alive handle

/-- What a blueprint makes under a new name. -/
theorem renamed_newcomer [Scalar S] (blueprint : Spec.Blueprint S) {keys otherKeys : KeyCache}
    (known : keys.Faithful) (otherKnown : otherKeys.Faithful) (look : Appearance S)
    (handle : Handle) (id : String) (position : Vec S) :
    (blueprint.newcomer keys look handle id position : Actor S T).renamed rename =
      blueprint.newcomer otherKeys look (rename handle) id position := by
  simp only [Actor.renamed, Spec.Blueprint.newcomer, known.bind_eq, otherKnown.bind_eq]

end World

/-! ### Upcoming handles -/

namespace Handles

variable {handles other : Handles} {held rest : List Handle}

/-- The handle that will be given out after so many others. -/
def upcoming (handles : Handles) : Nat → Handle
  | 0 => handles.take.1
  | later + 1 => handles.take.2.upcoming later

theorem Sound.upcoming_not_mem (sound : handles.Sound held) (number : Nat) :
    handles.upcoming number ∉ held := by
  induction number generalizing handles held with
  | zero => exact sound.take_not_mem
  | succ later ih => exact fun member => ih sound.take (List.mem_cons_of_mem _ member)

theorem Sound.upcoming_inj (sound : handles.Sound held) {first second : Nat}
    (same : handles.upcoming first = handles.upcoming second) : first = second := by
  induction first generalizing handles held second with
  | zero =>
    cases second with
    | zero => rfl
    | succ second =>
      exact absurd (same ▸ List.mem_cons_self) (sound.take.upcoming_not_mem second)
  | succ first ih =>
    cases second with
    | zero => exact absurd (same ▸ List.mem_cons_self) (sound.take.upcoming_not_mem first)
    | succ second => exact congrArg (· + 1) (ih sound.take same)

/-- Some renaming takes the next handles of one world to those of another. -/
theorem exists_rename (sound : handles.Sound held) (otherSound : other.Sound rest) (room : Nat) :
    ∃ rename : Handle ≃ Handle,
      ∀ number < room, rename (handles.upcoming number) = other.upcoming number := by
  induction room with
  | zero => exact ⟨.refl _, fun number below => absurd below (Nat.not_lt_zero _)⟩
  | succ room ih =>
    obtain ⟨rename, pairs⟩ := ih
    refine ⟨rename.trans (.swap (rename (handles.upcoming room)) (other.upcoming room)), ?_⟩
    intro number below
    rw [Equiv.trans_apply]
    rcases Nat.lt_succ_iff_lt_or_eq.mp below with earlier | last
    · have apart : rename (handles.upcoming number) ≠ rename (handles.upcoming room) :=
        fun same => Nat.ne_of_lt earlier (sound.upcoming_inj (rename.injective same))
      have distinct : rename (handles.upcoming number) ≠ other.upcoming room := by
        rw [pairs number earlier]
        exact fun same => Nat.ne_of_lt earlier (otherSound.upcoming_inj same)
      rw [Equiv.swap_apply_of_ne_of_ne apart distinct, pairs number earlier]
    · rw [last, Equiv.swap_apply_left]

end Handles

end Arcade
