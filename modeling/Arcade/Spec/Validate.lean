import Arcade.Spec.Error
import Arcade.Spec.Reader

/-! Which games are accepted: there is a scene, the world has a size, and no two scenes or assets
share a name. -/

namespace Arcade.Spec

/-- The first name that stands earlier in the list already. -/
def firstRepeated? (seen : List String) : List String → Option String
  | [] => none
  | name :: rest => if name ∈ seen then some name else firstRepeated? (name :: seen) rest

variable {S : Type}

/-- The first condition that a game violates. -/
def validate (spec : Spec S) : Except SpecError Unit :=
  if spec.scenes.isEmpty then .error .noScenes
  else if spec.settings.width = 0 || spec.settings.height = 0 then
    .error (.zeroDimensions spec.settings.width spec.settings.height)
  else
    match firstRepeated? [] (spec.scenes.map (·.name)) with
    | some name => .error (.duplicateScene name)
    | none =>
      match firstRepeated? [] (spec.assets.map (·.key)) with
      | some key => .error (.duplicateAsset key)
      | none => .ok ()

/-- The scene of a name. -/
def scene? (spec : Spec S) (name : String) : Option (Scene S) :=
  spec.scenes.find? (·.name = name)

/-- A valid game from JSON text. -/
def ofText [Scalar S] (text : String) : Except SpecError (Spec S) := do
  let spec ← (parse text).mapError .json
  validate spec
  .ok spec

theorem firstRepeated?_eq_none_iff (seen names : List String) :
    firstRepeated? seen names = none ↔ names.Nodup ∧ ∀ name ∈ names, name ∉ seen := by
  induction names generalizing seen with
  | nil => simp [firstRepeated?]
  | cons name rest ih =>
    by_cases known : name ∈ seen
    · simp [firstRepeated?, known]
    · simp only [firstRepeated?, known, ↓reduceIte, ih, List.nodup_cons, List.mem_cons,
        forall_eq_or_imp, not_false_eq_true, true_and]
      constructor
      · rintro ⟨distinct, apart⟩
        refine ⟨⟨fun here => (apart name here) (.inl rfl), distinct⟩, ?_⟩
        intro other member inside
        exact apart other member (.inr inside)
      · rintro ⟨⟨fresh, distinct⟩, apart⟩
        refine ⟨distinct, ?_⟩
        intro other member
        rintro (same | inside)
        · subst same; exact fresh member
        · exact apart other member inside

/-- No two scenes of a valid game share a name. -/
theorem nodup_of_validate {spec : Spec S} (valid : spec.validate = .ok ()) :
    (spec.scenes.map (·.name)).Nodup := by
  unfold validate at valid
  split at valid
  · cases valid
  · split at valid
    · cases valid
    · split at valid
      · cases valid
      · rename_i distinct
        exact ((firstRepeated?_eq_none_iff _ _).mp distinct).1

end Arcade.Spec
