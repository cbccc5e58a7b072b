import Arcade.Proofs.Parting

/-! A box in the world, in exact fractions. A box that is smaller than the world is put back inside it
along each axis by itself: where it sticks out it comes to touch the wall, and moves out of the world
no longer. The floor differs from the other walls: a box that only touches it is held by it too. -/

namespace Arcade.Bounds

variable {center velocity half limits : Vec Rat} {bounce : Rat} {axis : Axis}

/-- A box of this half size is smaller than the world on both axes. -/
def Fits (half limits : Vec Rat) : Prop :=
  ∀ axis, 0 ≤ half.along axis ∧ 2 * half.along axis < limits.along axis

instance (half limits : Vec Rat) : Decidable (Fits half limits) :=
  have holds (axis : Axis) : Decidable
      (0 ≤ half.along axis ∧ 2 * half.along axis < limits.along axis) := inferInstance
  have := holds .across
  have := holds Axis.across.other
  decidable_of_iff _ (Axis.forall_iff .across).symm

/-- A box sticks out of the left wall or of the ceiling. -/
def Short (center half : Vec Rat) (axis : Axis) : Prop := center.along axis - half.along axis < 0

/-- A box sticks out of the right wall, or it is at the floor or below it. -/
def Past (center half limits : Vec Rat) : Axis → Prop
  | .across => limits.x < center.x + half.x
  | .down => limits.y ≤ center.y + half.y

instance : Decidable (Short center half axis) :=
  inferInstanceAs (Decidable (center.along axis - half.along axis < 0))

instance (center half limits : Vec Rat) :
    (axis : Axis) → Decidable (Past center half limits axis)
  | .across => inferInstanceAs (Decidable (limits.x < center.x + half.x))
  | .down => inferInstanceAs (Decidable (limits.y ≤ center.y + half.y))

/-! ### One axis -/

theorem reboundLow_nonneg (springy : 0 ≤ bounce) (velocity : Rat) :
    0 ≤ reboundLow velocity bounce := by
  change 0 ≤ if velocity < 0 then -velocity * bounce else velocity
  split
  · rename_i out
    exact mul_nonneg (neg_nonneg.mpr out.le) springy
  · rename_i inward
    exact not_lt.mp inward

theorem reboundHigh_nonpos (springy : 0 ≤ bounce) (velocity : Rat) :
    reboundHigh velocity bounce ≤ 0 := by
  change (if 0 < velocity then -velocity * bounce else velocity) ≤ 0
  split
  · rename_i out
    exact mul_nonpos_of_nonpos_of_nonneg (neg_nonpos.mpr out.le) springy
  · rename_i inward
    exact not_lt.mp inward

theorem Past.reaches (past : Past center half limits axis) :
    limits.along axis ≤ center.along axis + half.along axis := by
  cases axis with
  | across => exact le_of_lt past
  | down => exact past

theorem past_of_out (out : limits.along axis < center.along axis + half.along axis) :
    Past center half limits axis := by
  cases axis with
  | across => exact out
  | down => exact le_of_lt out

/-- A box that is smaller than the world does not reach both walls. -/
theorem Past.not_short (past : Past center half limits axis) (fits : Fits half limits) :
    ¬ Short center half axis := by
  intro short
  obtain ⟨positive, small⟩ := fits axis
  have far := past.reaches
  unfold Short at short
  linarith

/-- Each axis is treated by itself, and both alike but for the wall on the far side. -/
theorem resolve_along (center velocity half limits : Vec Rat) (bounce : Rat) (axis : Axis) :
    ((resolve center velocity half limits bounce).center.along axis,
        (resolve center velocity half limits bounce).velocity.along axis) =
      if Short center half axis then (half.along axis, reboundLow (velocity.along axis) bounce)
      else if Past center half limits axis then
        (limits.along axis - half.along axis, reboundHigh (velocity.along axis) bounce)
      else (center.along axis, velocity.along axis) := by
  cases axis with
  | across => rfl
  | down =>
    change ((resolveDown center.y velocity.y half.y limits.y bounce).1,
      (resolveDown center.y velocity.y half.y limits.y bounce).2.1) = _
    unfold resolveDown
    split
    · rename_i short
      exact (if_pos short).symm
    · rename_i below
      have clear : ¬ Short center half .down := below
      rw [if_neg clear]
      split
      · rename_i past
        exact (if_pos past).symm
      · rename_i free
        exact (if_neg free).symm

theorem resolve_short (velocity limits : Vec Rat) (bounce : Rat) (short : Short center half axis) :
    (resolve center velocity half limits bounce).center.along axis = half.along axis ∧
      (resolve center velocity half limits bounce).velocity.along axis =
        reboundLow (velocity.along axis) bounce := by
  have held := resolve_along center velocity half limits bounce axis
  rw [if_pos short] at held
  exact Prod.mk.inj held

theorem resolve_past (velocity : Vec Rat) (bounce : Rat) (clear : ¬ Short center half axis)
    (past : Past center half limits axis) :
    (resolve center velocity half limits bounce).center.along axis =
        limits.along axis - half.along axis ∧
      (resolve center velocity half limits bounce).velocity.along axis =
        reboundHigh (velocity.along axis) bounce := by
  have held := resolve_along center velocity half limits bounce axis
  rw [if_neg clear, if_pos past] at held
  exact Prod.mk.inj held

theorem resolve_clear (velocity : Vec Rat) (bounce : Rat) (clear : ¬ Short center half axis)
    (free : ¬ Past center half limits axis) :
    (resolve center velocity half limits bounce).center.along axis = center.along axis ∧
      (resolve center velocity half limits bounce).velocity.along axis = velocity.along axis := by
  have held := resolve_along center velocity half limits bounce axis
  rw [if_neg clear, if_neg free] at held
  exact Prod.mk.inj held

/-- The floor is told apart from the ceiling, unless the box is too large for both. -/
theorem grounded_resolve (fits : Fits half limits) :
    (resolve center velocity half limits bounce).grounded = true ↔
      limits.y ≤ center.y + half.y := by
  change (resolveDown center.y velocity.y half.y limits.y bounce).2.2 = true ↔
    Past center half limits .down
  unfold resolveDown
  split
  · rename_i short
    exact iff_of_false Bool.false_ne_true fun past => past.not_short fits short
  · split
    · rename_i past
      exact iff_of_true rfl past
    · rename_i free
      exact iff_of_false Bool.false_ne_true free

/-- What the walls of an axis do to a box and its velocity. -/
structure Held (center velocity half limits : Vec Rat) (bounce : Rat) (axis : Axis)
    (outcome : Outcome Rat) : Prop where
  /-- The box is in the world. -/
  inside : 0 ≤ outcome.center.along axis - half.along axis ∧
    outcome.center.along axis + half.along axis ≤ limits.along axis
  /-- Where it did not reach a wall nothing changes. -/
  clear : ¬ Short center half axis → ¬ Past center half limits axis →
    outcome.center.along axis = center.along axis ∧
      outcome.velocity.along axis = velocity.along axis
  /-- At the near wall it touches the wall, and only a velocity that led out was turned. -/
  short : Short center half axis → outcome.center.along axis = half.along axis ∧
    0 ≤ outcome.velocity.along axis ∧ outcome.velocity.along axis =
      if velocity.along axis < 0 then velocity.along axis * -bounce else velocity.along axis
  /-- At the far wall too. -/
  past : Past center half limits axis →
    outcome.center.along axis = limits.along axis - half.along axis ∧
    outcome.velocity.along axis ≤ 0 ∧ outcome.velocity.along axis =
      if 0 < velocity.along axis then velocity.along axis * -bounce else velocity.along axis

theorem held_resolve (center velocity : Vec Rat) (fits : Fits half limits) (springy : 0 ≤ bounce)
    (axis : Axis) :
    Held center velocity half limits bounce axis
      (resolve center velocity half limits bounce) := by
  obtain ⟨positive, small⟩ := fits axis
  by_cases short : Short center half axis
  · obtain ⟨place, speed⟩ := resolve_short velocity limits bounce short
    refine ⟨?_, fun clear => absurd short clear, fun _ => ⟨place, ?_, ?_⟩,
      fun past => absurd short (past.not_short fits)⟩
    · rw [place]
      constructor <;> linarith
    · rw [speed]
      exact reboundLow_nonneg springy _
    · rw [speed, mul_neg, ← neg_mul]
      rfl
  · have low : 0 ≤ center.along axis - half.along axis := not_lt.mp short
    by_cases past : Past center half limits axis
    · obtain ⟨place, speed⟩ := resolve_past velocity bounce short past
      refine ⟨?_, fun _ free => absurd past free, fun out => absurd out short,
        fun _ => ⟨place, ?_, ?_⟩⟩
      · rw [place]
        constructor <;> linarith
      · rw [speed]
        exact reboundHigh_nonpos springy _
      · rw [speed, mul_neg, ← neg_mul]
        rfl
    · obtain ⟨place, speed⟩ := resolve_clear velocity bounce short past
      refine ⟨?_, fun _ _ => ⟨place, speed⟩, fun out => absurd out short,
        fun far => absurd far past⟩
      rw [place]
      exact ⟨low, not_lt.mp fun out => past (past_of_out out)⟩

/-! ### The second time -/

theorem past_congr {other : Vec Rat} (same : other.along axis = center.along axis) :
    Past other half limits axis ↔ Past center half limits axis := by
  cases axis with
  | across =>
    change other.x = center.x at same
    rw [Past, same, Past]
  | down =>
    change other.y = center.y at same
    rw [Past, same, Past]

/-- A box that is still at a far wall was there before. -/
theorem Held.past_before {outcome : Outcome Rat} (fits : Fits half limits)
    (held : Held center velocity half limits bounce axis outcome)
    (still : Past outcome.center half limits axis) : Past center half limits axis := by
  by_contra free
  by_cases short : Short center half axis
  · obtain ⟨positive, small⟩ := fits axis
    have far := still.reaches
    rw [(held.short short).1] at far
    linarith
  · exact free ((past_congr (held.clear short free).1).mp still)

/-- A box that the walls have put back is left as it is. -/
theorem resolve_resolve (fits : Fits half limits) (springy : 0 ≤ bounce) :
    let outcome := resolve center velocity half limits bounce
    resolve outcome.center outcome.velocity half limits bounce = outcome := by
  intro outcome
  have held (axis : Axis) : Held center velocity half limits bounce axis outcome :=
    held_resolve center velocity fits springy axis
  have again (axis : Axis) :
      (resolve outcome.center outcome.velocity half limits bounce).center.along axis =
          outcome.center.along axis ∧
        (resolve outcome.center outcome.velocity half limits bounce).velocity.along axis =
          outcome.velocity.along axis := by
    have clear : ¬ Short outcome.center half axis := not_lt.mpr (held axis).inside.1
    by_cases past : Past outcome.center half limits axis
    · obtain ⟨place, speed, -⟩ := (held axis).past ((held axis).past_before fits past)
      obtain ⟨placed, turned⟩ := resolve_past outcome.velocity bounce clear past
      refine ⟨placed.trans place.symm, ?_⟩
      rw [turned]
      exact if_neg (not_lt.mpr speed)
    · exact resolve_clear outcome.velocity bounce clear past
  have flag : (resolve outcome.center outcome.velocity half limits bounce).grounded =
      outcome.grounded := by
    rw [Bool.eq_iff_iff, grounded_resolve fits, grounded_resolve fits]
    refine ⟨(held .down).past_before fits, fun floor => ?_⟩
    have place : outcome.center.y = limits.y - half.y := ((held .down).past floor).1
    rw [place, sub_add_cancel]
  have place := Vec.ext_along fun axis => (again axis).1
  have speed := Vec.ext_along fun axis => (again axis).2
  calc resolve outcome.center outcome.velocity half limits bounce
      = ⟨(resolve outcome.center outcome.velocity half limits bounce).center,
          (resolve outcome.center outcome.velocity half limits bounce).velocity,
          (resolve outcome.center outcome.velocity half limits bounce).grounded⟩ := rfl
    _ = ⟨outcome.center, outcome.velocity, outcome.grounded⟩ := by rw [place, speed, flag]

end Arcade.Bounds
