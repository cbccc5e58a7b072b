import Mathlib.Data.List.Nodup
import Arcade.Manifest
import Arcade.Proofs.Reordering
import Arcade.Spec.Validate

/-! Which games are accepted, and what is found in a game that is. A game is refused for the first thing
that is wrong with it; of names that are repeated, the one is told whose second place comes first. Where
no name is repeated it does not matter which of several entries a look-up takes: a scene is the scene of
its name, and an asset has the one entry under its key. -/

namespace Arcade

/-! ### Entries under distinct names -/

/-- Under distinct names no entry is lost. -/
theorem Index.perm_entries_ofList {entries : List (String × α)}
    (distinct : (entries.map (·.1)).Nodup) : (Index.ofList entries).entries.Perm entries := by
  have unrepeated := (Index.nodup_entries (Index.ofList entries)).of_map Prod.fst
  refine (List.perm_ext_iff_of_nodup unrepeated (distinct.of_map Prod.fst)).mpr ?_
  rintro ⟨name, value⟩
  rw [Index.mem_entries_iff, Index.get?_ofList distinct, lookup?_eq_some_iff distinct]

namespace Spec

variable {S : Type}

/-! ### What is wrong with a game -/

/-- The first name of a list that stands earlier in it already. -/
def FirstRepeat (names : List String) (name : String) : Prop :=
  ∃ before after, names = before ++ name :: after ∧ before.Nodup ∧ name ∈ before

/-- A game has a scene, its world has a size, and no two scenes and no two assets share a name. -/
structure Acceptable (spec : Spec S) : Prop where
  scene : spec.scenes ≠ []
  size : 0 < spec.settings.width ∧ 0 < spec.settings.height
  names : (spec.scenes.map (·.name)).Nodup
  keys : (spec.assets.map (·.key)).Nodup

/-- The first thing that is wrong with a game. -/
inductive Fault (spec : Spec S) : SpecError → Prop where
  | noScenes (none : spec.scenes = []) : Fault spec .noScenes
  | zeroDimensions (scene : spec.scenes ≠ [])
      (flat : spec.settings.width = 0 ∨ spec.settings.height = 0) :
      Fault spec (.zeroDimensions spec.settings.width spec.settings.height)
  | duplicateScene {name : String} (scene : spec.scenes ≠ [])
      (size : 0 < spec.settings.width ∧ 0 < spec.settings.height)
      (repeated : FirstRepeat (spec.scenes.map (·.name)) name) : Fault spec (.duplicateScene name)
  | duplicateAsset {key : String} (scene : spec.scenes ≠ [])
      (size : 0 < spec.settings.width ∧ 0 < spec.settings.height)
      (names : (spec.scenes.map (·.name)).Nodup)
      (repeated : FirstRepeat (spec.assets.map (·.key)) key) : Fault spec (.duplicateAsset key)

/-- Reading on after some names, a name is told that stands among those or earlier in the list. -/
theorem firstRepeated?_eq_some_iff {seen names : List String} {name : String} :
    firstRepeated? seen names = some name ↔
      ∃ before after, names = before ++ name :: after ∧ before.Nodup ∧
        (∀ other ∈ before, other ∉ seen) ∧ (name ∈ before ∨ name ∈ seen) := by
  induction names generalizing seen with
  | nil => simp [firstRepeated?]
  | cons head rest ih =>
    by_cases known : head ∈ seen
    · simp only [firstRepeated?, known, ↓reduceIte, Option.some.injEq]
      constructor
      · rintro rfl
        exact ⟨[], rest, rfl, .nil, by simp, .inr known⟩
      · rintro ⟨_ | ⟨other, before⟩, after, split, -, apart, -⟩
        · exact (List.cons.inj split).1
        · obtain ⟨rfl, -⟩ := List.cons.inj split
          exact absurd known (apart _ List.mem_cons_self)
    · simp only [firstRepeated?, known, ↓reduceIte, ih]
      constructor
      · rintro ⟨before, after, rfl, distinct, apart, earlier⟩
        have fresh : head ∉ before := fun inside => apart head inside List.mem_cons_self
        refine ⟨head :: before, after, rfl, List.nodup_cons.mpr ⟨fresh, distinct⟩, ?_, ?_⟩
        · rintro other (_ | ⟨_, inside⟩)
          · exact known
          · exact fun met => apart other inside (List.mem_cons_of_mem _ met)
        · rcases earlier with inside | met
          · exact .inl (List.mem_cons_of_mem _ inside)
          · rcases List.mem_cons.mp met with rfl | met
            · exact .inl List.mem_cons_self
            · exact .inr met
      · rintro ⟨_ | ⟨other, before⟩, after, split, distinct, apart, earlier⟩
        · obtain ⟨rfl, -⟩ := List.cons.inj split
          exact absurd (earlier.resolve_left List.not_mem_nil) known
        · obtain ⟨rfl, rfl⟩ := List.cons.inj split
          obtain ⟨fresh, distinct⟩ := List.nodup_cons.mp distinct
          refine ⟨before, after, rfl, distinct, ?_, ?_⟩
          · intro name inside met
            rcases List.mem_cons.mp met with rfl | met
            · exact fresh inside
            · exact apart name (List.mem_cons_of_mem _ inside) met
          · rcases earlier with inside | met
            · rcases List.mem_cons.mp inside with rfl | inside
              · exact .inr List.mem_cons_self
              · exact .inl inside
            · exact .inr (List.mem_cons_of_mem _ met)

theorem firstRepeated?_eq_some {names : List String} {name : String} :
    firstRepeated? [] names = some name ↔ FirstRepeat names name := by
  simp [firstRepeated?_eq_some_iff, FirstRepeat]

theorem firstRepeated?_eq_none {names : List String} :
    firstRepeated? [] names = none ↔ names.Nodup := by
  simp [firstRepeated?_eq_none_iff]

/-- What becomes of a game: it is accepted, or refused for its first fault. -/
theorem validate_cases (spec : Spec S) :
    (spec.validate = .ok () ∧ spec.Acceptable) ∨
      ∃ error, spec.validate = .error error ∧ spec.Fault error := by
  unfold validate
  by_cases none : spec.scenes = []
  · exact .inr ⟨_, by simp [none], .noScenes none⟩
  · rw [if_neg (by simpa using none)]
    by_cases flat : spec.settings.width = 0 ∨ spec.settings.height = 0
    · exact .inr ⟨_, by simp [flat], .zeroDimensions none flat⟩
    · rw [if_neg (by simpa using flat)]
      have size : 0 < spec.settings.width ∧ 0 < spec.settings.height := by omega
      cases named : firstRepeated? [] (spec.scenes.map (·.name)) with
      | some name =>
        exact .inr ⟨_, rfl, .duplicateScene none size (firstRepeated?_eq_some.mp named)⟩
      | none =>
        have names := firstRepeated?_eq_none.mp named
        cases keyed : firstRepeated? [] (spec.assets.map (·.key)) with
        | some key =>
          exact .inr ⟨_, rfl, .duplicateAsset none size names (firstRepeated?_eq_some.mp keyed)⟩
        | none => exact .inl ⟨rfl, none, size, names, firstRepeated?_eq_none.mp keyed⟩

theorem Acceptable.validate {spec : Spec S} (acceptable : spec.Acceptable) :
    spec.validate = .ok () := by
  obtain ⟨scene, ⟨width, height⟩, names, keys⟩ := acceptable
  simp [Spec.validate, scene, Nat.ne_of_gt width, Nat.ne_of_gt height,
    firstRepeated?_eq_none.mpr names, firstRepeated?_eq_none.mpr keys]

theorem Fault.validate {spec : Spec S} {error : SpecError} (fault : spec.Fault error) :
    spec.validate = .error error := by
  cases fault with
  | noScenes none => simp [Spec.validate, none]
  | zeroDimensions scene flat => simp [Spec.validate, scene, flat]
  | duplicateScene scene size repeated =>
    simp [Spec.validate, scene, Nat.ne_of_gt size.1, Nat.ne_of_gt size.2,
      firstRepeated?_eq_some.mpr repeated]
  | duplicateAsset scene size names repeated =>
    simp [Spec.validate, scene, Nat.ne_of_gt size.1, Nat.ne_of_gt size.2,
      firstRepeated?_eq_none.mpr names, firstRepeated?_eq_some.mpr repeated]

theorem validate_eq_ok_iff {spec : Spec S} : spec.validate = .ok () ↔ spec.Acceptable := by
  refine ⟨fun valid => ?_, Acceptable.validate⟩
  rcases validate_cases spec with ⟨-, acceptable⟩ | ⟨error, refused, -⟩
  · exact acceptable
  · cases valid.symm.trans refused

theorem validate_eq_error_iff {spec : Spec S} {error : SpecError} :
    spec.validate = .error error ↔ spec.Fault error := by
  refine ⟨fun refused => ?_, Fault.validate⟩
  rcases validate_cases spec with ⟨valid, -⟩ | ⟨told, first, fault⟩
  · cases refused.symm.trans valid
  · cases refused.symm.trans first
    exact fault

/-! ### What is found in an accepted game -/

/-- A picture can be shown. -/
def AssetKind.IsPicture (kind : AssetKind) : Prop := kind = .sprite ∨ kind = .image

theorem scene?_eq_some_iff {spec : Spec S} (distinct : (spec.scenes.map (·.name)).Nodup)
    {name : String} {scene : Scene S} :
    spec.scene? name = some scene ↔ scene ∈ spec.scenes ∧ scene.name = name := by
  constructor
  · intro found
    exact ⟨List.mem_of_find?_eq_some found, by simpa using List.find?_some found⟩
  · rintro ⟨declared, rfl⟩
    have known : (spec.scene? scene.name).isSome = true :=
      List.find?_isSome.mpr ⟨scene, declared, decide_eq_true rfl⟩
    obtain ⟨other, found⟩ := Option.isSome_iff_exists.mp known
    have named : other.name = scene.name := by simpa using List.find?_some found
    rw [found, List.inj_on_of_nodup_map distinct (List.mem_of_find?_eq_some found) declared named]

end Spec

namespace Manifest

theorem picture?_eq_some_iff {manifest : Manifest} {key url : String} :
    manifest.picture? key = some url ↔
      ∃ asset, manifest.entries.get? key = some asset ∧ asset.kind.IsPicture ∧ asset.url = url := by
  unfold picture?
  cases manifest.entries.get? key with
  | none => simp
  | some asset => cases kind : asset.kind <;> simp [kind, Spec.AssetKind.IsPicture]

variable {assets : List Spec.Asset}

theorem get?_ofAssets (distinct : (assets.map (·.key)).Nodup) {key : String} {asset : Spec.Asset} :
    (ofAssets assets).entries.get? key = some asset ↔ asset ∈ assets ∧ asset.key = key := by
  have apart : ((assets.map fun asset => (asset.key, asset)).map (·.1)).Nodup := by
    simpa [Function.comp_def] using distinct
  rw [ofAssets, Index.get?_ofList apart, lookup?_eq_some_iff apart, List.mem_map]
  constructor
  · rintro ⟨asset, listed, ⟨⟩⟩
    exact ⟨listed, rfl⟩
  · rintro ⟨listed, rfl⟩
    exact ⟨asset, listed, rfl⟩

theorem perm_ofAssets (distinct : (assets.map (·.key)).Nodup) :
    (ofAssets assets).entries.entries.Perm (assets.map fun asset => (asset.key, asset)) :=
  Index.perm_entries_ofList (by simpa [Function.comp_def] using distinct)

theorem size_ofAssets (distinct : (assets.map (·.key)).Nodup) :
    (ofAssets assets).size = assets.length := by
  rw [size, Index.size, (perm_ofAssets distinct).length_eq, List.length_map]

theorem picture?_ofAssets (distinct : (assets.map (·.key)).Nodup) {key url : String} :
    (ofAssets assets).picture? key = some url ↔
      ∃ asset ∈ assets, asset.key = key ∧ asset.kind.IsPicture ∧ asset.url = url := by
  rw [picture?_eq_some_iff]
  simp only [get?_ofAssets distinct, and_assoc]

end Manifest

/-- A game is accepted exactly if it has a scene, its world has a size, and neither two scenes nor two
assets share a name; else it is refused for the first of these that fails, with the first name that is
repeated. In an accepted game a name finds a scene exactly if it is the name of that scene, every asset
has one entry and every entry is that of an asset, and a key finds an address exactly if it is the address
of the picture with that key. -/
theorem Spec.accepts_unambiguous {S : Type} (spec : Spec S) :
    (spec.validate = .ok () ↔ spec.Acceptable) ∧
    (∀ error, spec.validate = .error error ↔ spec.Fault error) ∧
    (spec.validate = .ok () →
      (∀ place (inside : place < spec.scenes.length) name,
        spec.scene? name = some spec.scenes[place] ↔ spec.scenes[place].name = name) ∧
      (Manifest.ofAssets spec.assets).entries.entries.Perm
        (spec.assets.map fun asset => (asset.key, asset)) ∧
      (Manifest.ofAssets spec.assets).size = spec.assets.length ∧
      (∀ asset ∈ spec.assets,
        (Manifest.ofAssets spec.assets).picture? asset.key = some asset.url ↔ asset.kind.IsPicture) ∧
      ∀ key url, (Manifest.ofAssets spec.assets).picture? key = some url ↔
        ∃ asset ∈ spec.assets, asset.key = key ∧ asset.kind.IsPicture ∧ asset.url = url) := by
  refine ⟨validate_eq_ok_iff, fun _ => validate_eq_error_iff, fun valid => ?_⟩
  obtain ⟨-, -, names, keys⟩ := validate_eq_ok_iff.mp valid
  refine ⟨fun place inside name => ?_, Manifest.perm_ofAssets keys, Manifest.size_ofAssets keys,
    fun asset listed => ?_, fun key url => Manifest.picture?_ofAssets keys⟩
  · rw [scene?_eq_some_iff names]
    exact and_iff_right (List.getElem_mem inside)
  · rw [Manifest.picture?_eq_some_iff]
    have entered := (Manifest.get?_ofAssets keys).mpr ⟨listed, rfl⟩
    simp [entered]

/-- A game with two scenes, two pictures and a sound. -/
def Sample.gallery : Spec Float32 where
  title := "Gallery"
  description := ""
  settings := ⟨800, 600, "", ⟨true, ⟨0, 0⟩, false⟩⟩
  assets := [⟨"hero", .sprite, "hero.png"⟩, ⟨"jump", .audio, "jump.ogg"⟩, ⟨"sky", .image, "sky.png"⟩]
  scenes := [⟨"menu", [], none⟩, ⟨"main", [], none⟩]
  controlsDescription := []
  keyConcepts := []

/-- The second scene is found by its name, each of the assets has its entry, and only the two pictures
have addresses. -/
theorem Spec.accepts_unambiguous_gallery :
    Sample.gallery.validate = .ok () ∧
      Sample.gallery.scene? "main" = some Sample.gallery.scenes[1] ∧
      (Manifest.ofAssets Sample.gallery.assets).size = 3 ∧
      (Manifest.ofAssets Sample.gallery.assets).picture? "sky" = some "sky.png" ∧
      (Manifest.ofAssets Sample.gallery.assets).picture? "jump" ≠ some "jump.ogg" := by
  obtain ⟨accepted, -, found⟩ := accepts_unambiguous Sample.gallery
  have valid := accepted.mpr ⟨by decide, by decide, by decide, by decide⟩
  obtain ⟨scenes, -, size, pictures, -⟩ := found valid
  refine ⟨valid, (scenes 1 (by decide) "main").mpr rfl, size, ?_, ?_⟩
  · exact (pictures ⟨"sky", .image, "sky.png"⟩ (by decide)).mpr (.inr rfl)
  · exact mt (pictures ⟨"jump", .audio, "jump.ogg"⟩ (by decide)).mp (by simp [AssetKind.IsPicture])

end Arcade
