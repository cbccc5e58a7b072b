import Arcade.Proofs.Range
import Arcade.Spawn.Position

/-! Where copies appear. Of a generator no more is asked than that its numbers lie between the bounds they
were asked for. Then every copy appears on the edge that its spawner names, or anywhere in the world or at
the origin, and a spawner that varies places keeps each coordinate between the bounds it gives for it. -/

namespace Arcade

/-! ### Numbers between bounds -/

/-- A number lies between two bounds in either order. -/
def Among {S : Type} [Scalar S] (a b x : S) : Prop := a ≤ x ∧ x ≤ b ∨ b ≤ x ∧ x ≤ a

namespace Generator

variable {R : Type} [Generator R Float32] {random later : R} {a b number : Float32}

/-- Bounds that are not drawn from give the lower one, which also lies between them. -/
theorem KeepsRange.of_le (keeps : KeepsRange R Float32) (order : a ≤ b)
    (drawn : (if !(Scalar.isFinite a && Scalar.isFinite b) || a == b then .ok (a, random)
      else Generator.within random a b) = .ok (number, later)) : a ≤ number ∧ number ≤ b := by
  split at drawn
  · cases drawn
    exact ⟨(Single.le_refl_of_le order).1, order⟩
  · rename_i apart
    simp only [Bool.or_eq_true, Bool.not_eq_true', Bool.and_eq_false_iff, not_or,
      Bool.not_eq_false, Bool.not_eq_true] at apart
    obtain ⟨⟨left, right⟩, different⟩ := apart
    exact keeps random later a b number left right (Single.lt_of_le_of_ne order different) drawn

theorem KeepsRange.among (keeps : KeepsRange R Float32) (comparable : a ≤ b ∨ b ≤ a)
    (drawn : Generator.between random a b = .ok (number, later)) : Among a b number := by
  unfold Generator.between at drawn
  by_cases order : a ≤ b
  · rw [if_pos order] at drawn
    exact .inl (keeps.of_le order drawn)
  · rw [if_neg order] at drawn
    exact .inr (keeps.of_le (comparable.resolve_left order) drawn)

theorem KeepsRange.of_between (keeps : KeepsRange R Float32) (order : a ≤ b)
    (drawn : Generator.between random a b = .ok (number, later)) : a ≤ number ∧ number ≤ b := by
  unfold Generator.between at drawn
  rw [if_pos order] at drawn
  exact keeps.of_le order drawn

end Generator

/-! ### Places -/

namespace Spawn

/-- The names of areas of the world. -/
def areaNames : List String := ["top", "bottom", "left", "right", "random"]

variable {S : Type} [Scalar S]

/-- How far across an area is. -/
def Across (area : String) (width x : S) : Prop :=
  if area ∈ ["top", "bottom", "random"] then 0 ≤ x ∧ x ≤ width
  else x = if area = "right" then width else 0

/-- How far down an area is. -/
def Down (area : String) (height y : S) : Prop :=
  if area ∈ ["left", "right", "random"] then 0 ≤ y ∧ y ≤ height
  else y = if area = "bottom" then height else 0

/-- Places in the world. -/
def Inside (extent place : Vec S) : Prop :=
  (0 ≤ place.x ∧ place.x ≤ extent.x) ∧ 0 ≤ place.y ∧ place.y ≤ extent.y

/-- A world that has some size. -/
def Roomy (extent : Vec S) : Prop := 0 < extent.x ∧ 0 < extent.y

/-- All bounds that are given are finite. -/
structure Bounded (ranges : Spec.Variance S) : Prop where
  xMin : Scalar.isFinite ranges.xMin = true
  xMax : Scalar.isFinite ranges.xMax = true
  yMin : ∀ y ∈ ranges.yMin, Scalar.isFinite y = true
  yMax : ∀ y ∈ ranges.yMax, Scalar.isFinite y = true

/-- A place is where the spawner asks for it: on the edge that it names, or anywhere, or at the origin, if
it does not vary places; else where it varies them to, and as far down as the area is unless it gives both
bounds for that. -/
structure AsAsked (area : String) (variance : Option (Spec.Variance S)) (extent place : Vec S) : Prop where
  fixed : variance = none →
    Across area extent.x place.x ∧ Down area extent.y place.y ∧ Inside extent place
  origin : variance = none → area ∉ areaNames → place = .zero
  across : ∀ ranges ∈ variance, Among ranges.xMin ranges.xMax place.x
  down : ∀ ranges ∈ variance, ∀ low ∈ ranges.yMin, ∀ high ∈ ranges.yMax, Among low high place.y
  level : ∀ ranges ∈ variance, ranges.yMin = none ∨ ranges.yMax = none → Down area extent.y place.y

/-- A name that stands for no area stands for the origin. -/
theorem eq_zero_of_unknown {area : String} {extent place : Vec S} (unknown : area ∉ areaNames)
    (across : Across area extent.x place.x) (down : Down area extent.y place.y) : place = .zero := by
  simp only [areaNames, List.mem_cons, List.not_mem_nil, or_false, not_or] at unknown
  obtain ⟨top, bottom, left, right, random⟩ := unknown
  have first : place.x = 0 := by simpa [Across, top, bottom, right, random] using across
  have second : place.y = 0 := by simpa [Down, left, right, bottom, random] using down
  cases place
  simp only at first second
  rw [first, second]
  rfl

variable {R : Type} [Generator R Float32] {random later : R} {area : String}
  {extent place : Vec Float32}

omit [Generator R Float32] in
theorem inside_of_across_down (roomy : Roomy extent) (across : Across area extent.x place.x)
    (down : Down area extent.y place.y) : Inside extent place := by
  have wide := Single.le_of_lt roomy.1
  have tall := Single.le_of_lt roomy.2
  constructor
  · unfold Across at across
    split at across
    · exact across
    · split at across
      · rw [across]
        exact ⟨wide, (Single.le_refl_of_le wide).2⟩
      · rw [across]
        exact ⟨(Single.le_refl_of_le wide).1, wide⟩
  · unfold Down at down
    split at down
    · exact down
    · split at down
      · rw [down]
        exact ⟨tall, (Single.le_refl_of_le tall).2⟩
      · rw [down]
        exact ⟨(Single.le_refl_of_le tall).1, tall⟩

/-- Where an area is drawn from. -/
theorem across_down_of_draw (keeps : Generator.KeepsRange R Float32) (roomy : Roomy extent)
    (drawn : (Area.ofName area).draw extent random = .ok (place, later)) :
    Across area extent.x place.x ∧ Down area extent.y place.y := by
  have wide := Single.le_of_lt roomy.1
  have tall := Single.le_of_lt roomy.2
  unfold Area.ofName at drawn
  split at drawn
  · obtain ⟨⟨x, _⟩, first, rest⟩ := bind_eq_ok drawn
    cases rest
    exact ⟨keeps.of_between wide first, rfl⟩
  · obtain ⟨⟨x, _⟩, first, rest⟩ := bind_eq_ok drawn
    cases rest
    exact ⟨keeps.of_between wide first, rfl⟩
  · obtain ⟨⟨y, _⟩, first, rest⟩ := bind_eq_ok drawn
    cases rest
    exact ⟨rfl, keeps.of_between tall first⟩
  · obtain ⟨⟨y, _⟩, first, rest⟩ := bind_eq_ok drawn
    cases rest
    exact ⟨rfl, keeps.of_between tall first⟩
  · obtain ⟨⟨x, _⟩, first, rest⟩ := bind_eq_ok drawn
    obtain ⟨⟨y, _⟩, second, rest⟩ := bind_eq_ok rest
    cases rest
    exact ⟨keeps.of_between wide first, keeps.of_between tall second⟩
  · cases drawn
    simp_all [Across, Down, Vec.zero]

theorem among_of_vary (keeps : Generator.KeepsRange R Float32) {ranges : Spec.Variance Float32}
    (bounded : Bounded ranges) {before : Vec Float32}
    (drawn : vary ranges before random = .ok (place, later)) :
    Among ranges.xMin ranges.xMax place.x ∧
      (∀ low ∈ ranges.yMin, ∀ high ∈ ranges.yMax, Among low high place.y) ∧
      (ranges.yMin = none ∨ ranges.yMax = none → place.y = before.y) := by
  have comparable {a b : Float32} (left : Scalar.isFinite a = true)
      (right : Scalar.isFinite b = true) : a ≤ b ∨ b ≤ a :=
    Single.le_or_le (Single.isFinite_iff.mp left) (Single.isFinite_iff.mp right)
  obtain ⟨⟨x, _⟩, first, rest⟩ := bind_eq_ok drawn
  have across := keeps.among (comparable bounded.xMin bounded.xMax) first
  simp only at rest
  split at rest
  · rename_i low high lowGiven highGiven
    obtain ⟨⟨y, _⟩, second, rest⟩ := bind_eq_ok rest
    cases rest
    have down := keeps.among
      (comparable (bounded.yMin low lowGiven) (bounded.yMax high highGiven)) second
    rw [lowGiven, highGiven]
    refine ⟨across, ?_, by simp⟩
    rintro _ ⟨⟩ _ ⟨⟩
    exact down
  · rename_i partial_
    cases rest
    refine ⟨across, fun low lowGiven high highGiven => ?_, fun _ => rfl⟩
    exact absurd highGiven (partial_ low high lowGiven)

/-- Wherever a copy appears, it appears where its spawner asks for it, as long as the generator keeps to the
bounds that it is asked for. -/
theorem places_as_asked (keeps : Generator.KeepsRange R Float32) (roomy : Roomy extent)
    {variance : Option (Spec.Variance Float32)} (bounded : ∀ ranges ∈ variance, Bounded ranges)
    (drawn : position area variance extent random = .ok (place, later)) :
    AsAsked area variance extent place := by
  obtain ⟨⟨before, _⟩, first, rest⟩ := bind_eq_ok drawn
  obtain ⟨across, down⟩ := across_down_of_draw keeps roomy first
  cases variance with
  | none =>
    cases rest
    exact ⟨fun _ => ⟨across, down, inside_of_across_down roomy across down⟩,
      fun _ unknown => eq_zero_of_unknown unknown across down, nofun, nofun, nofun⟩
  | some ranges =>
    obtain ⟨x, y, level⟩ := among_of_vary keeps (bounded ranges rfl) rest
    refine ⟨nofun, nofun, ?_, ?_, ?_⟩
    · rintro _ ⟨⟩
      exact x
    · rintro _ ⟨⟩
      exact y
    · rintro _ ⟨⟩ missing
      rw [level missing]
      exact down

end Spawn

/-- Bounds that are given backwards. -/
def Sample.backwards : Spec.Variance Float32 := ⟨700, 100, some 50, some 20⟩

/-- A place between bounds that are given backwards, drawn by the generator of a scene. -/
theorem Spawn.places_as_asked_backwards :
    ∃ (place : Vec Float32) (later : Random),
      position "bottom" (some Sample.backwards) ⟨800, 600⟩ (Random.ofSeed 7) = .ok (place, later) ∧
        AsAsked "bottom" (some Sample.backwards) ⟨800, 600⟩ place := by
  have drawn : position "bottom" (some Sample.backwards) (⟨800, 600⟩ : Vec Float32)
      (Random.ofSeed 7) = .ok (⟨.ofBits 1133522868, .ofBits 1107640444⟩, ⟨1430670844407342086,
        6890030962445706542, 4423220503912139132, 15140392552823416183⟩) := by
    rfl
  refine ⟨_, _, drawn, places_as_asked Random.keepsRange ⟨by decide +kernel, by decide +kernel⟩ ?_ drawn⟩
  rintro _ ⟨⟩
  exact ⟨by decide +kernel, by decide +kernel, by decide +kernel, by decide +kernel⟩

end Arcade
