import Arcade.World.Physics
import Mathlib.Algebra.Order.Field.Rat
import Mathlib.Algebra.Order.Ring.Abs
import Mathlib.Tactic.Linarith
import Mathlib.Tactic.LinearCombination
import Mathlib.Tactic.Ring

/-! Bodies that meet, in exact fractions. Two boxes that overlap are pushed apart along the axis where
they reach less far into each other, by just as far as they do, so that they touch there and overlap no
more; who cannot be moved takes no part of the push. A body that was pushed moves against the push
no longer. -/

namespace Arcade

variable {T : Type}

/-! ### Axes -/

/-- One of the two axes. -/
inductive Axis where
  | across
  | down

/-- The axis at right angles. -/
def Axis.other : Axis → Axis
  | across => down
  | down => across

theorem Axis.forall_iff {holds : Axis → Prop} (axis : Axis) :
    (∀ any, holds any) ↔ holds axis ∧ holds axis.other := by
  constructor
  · exact fun all => ⟨all axis, all axis.other⟩
  · rintro ⟨own, other⟩ any
    cases axis <;> cases any <;> assumption

namespace Vec

/-- The component of a vector along an axis. -/
def along {S : Type} (v : Vec S) : Axis → S
  | .across => v.x
  | .down => v.y

theorem ext_along {S : Type} {a b : Vec S} (same : ∀ axis, a.along axis = b.along axis) : a = b := by
  cases a
  cases b
  have x := same .across
  have y := same .down
  simp only [along] at x y
  rw [x, y]

theorem along_add (a b : Vec Rat) (axis : Axis) :
    (a + b).along axis = a.along axis + b.along axis := by
  cases axis <;> rfl

theorem along_neg (a : Vec Rat) (axis : Axis) : (-a).along axis = -a.along axis := by
  cases axis <;> rfl

theorem along_scale (a : Vec Rat) (factor : Rat) (axis : Axis) :
    (a.scale factor).along axis = a.along axis * factor := by
  cases axis <;> rfl

theorem along_zero (axis : Axis) : (zero : Vec Rat).along axis = 0 := by
  cases axis <;> rfl

theorem scale_zero (a : Vec Rat) : a.scale 0 = zero := by
  apply ext_along
  intro axis
  rw [along_scale, along_zero, mul_zero]

end Vec

theorem Scalar.abs_rat (x : Rat) : Scalar.abs x = |x| := by
  change (if x < 0 then -x else x) = |x|
  split
  · rename_i negative
    exact (abs_of_neg negative).symm
  · rename_i positive
    exact (abs_of_nonneg (not_lt.mp positive)).symm

/-! ### Boxes -/

namespace Box

variable {a b : Box Rat} {aMovable bMovable : Bool} {pushA pushB : Vec Rat}

/-- A box after a displacement. -/
def shifted (box : Box Rat) (push : Vec Rat) : Box Rat := { box with center := box.center + push }

/-- How far two boxes would have to be apart along an axis in order to touch. -/
def reach (a b : Box Rat) (axis : Axis) : Rat := a.half.along axis + b.half.along axis

/-- How far the centers of two boxes are apart along an axis. -/
def gap (a b : Box Rat) (axis : Axis) : Rat := |b.center.along axis - a.center.along axis|

/-- How far two boxes reach into each other along an axis. -/
def depth (a b : Box Rat) (axis : Axis) : Rat := reach a b axis - gap a b axis

theorem penetration_along (a b : Box Rat) (axis : Axis) :
    (penetration a b).along axis = depth a b axis := by
  cases axis <;> exact congrArg (_ - ·) (Scalar.abs_rat _)

theorem depth_comm (a b : Box Rat) (axis : Axis) : depth b a axis = depth a b axis := by
  rw [depth, depth, reach, reach, gap, gap, abs_sub_comm, add_comm (b.half.along axis)]

/-- Boxes overlap if they reach into each other along both axes. -/
theorem overlaps_iff : a.overlaps b = true ↔ ∀ axis, 0 < depth a b axis := by
  have across : gap a b .across = Scalar.abs (b.center.x - a.center.x) := (Scalar.abs_rat _).symm
  have down : gap a b .down = Scalar.abs (b.center.y - a.center.y) := (Scalar.abs_rat _).symm
  simp only [depth, sub_pos, Axis.forall_iff .across, Axis.other, across, down, overlaps,
    Bool.and_eq_true, decide_eq_true_eq]
  rfl

theorem overlaps_comm (a b : Box Rat) : b.overlaps a = a.overlaps b := by
  rw [Bool.eq_iff_iff, overlaps_iff, overlaps_iff]
  simp only [depth_comm a b]

/-! ### Shares -/

/-- What is shared is the whole push; who cannot be moved takes nothing of it, and two who can take
half of it each. -/
theorem shares_spec {aShare bShare : Rat}
    (shared : shares? aMovable bMovable = some (aShare, bShare)) :
    aShare + bShare = 1 ∧ (aMovable = false → aShare = 0) ∧ (bMovable = false → bShare = 0) ∧
      (aMovable = true → bMovable = true → aShare = 1 / 2 ∧ bShare = 1 / 2) := by
  cases aMovable <;> cases bMovable
  · cases shared
  · cases shared
    exact ⟨zero_add 1, fun _ => rfl, nofun, nofun⟩
  · cases shared
    exact ⟨add_zero 1, nofun, fun _ => rfl, nofun⟩
  · cases shared
    exact ⟨add_halves 1, nofun, nofun, fun _ _ => ⟨rfl, rfl⟩⟩

theorem isSome_shares (aMovable bMovable : Bool) :
    (shares? (S := Rat) aMovable bMovable).isSome = (aMovable || bMovable) := by
  cases aMovable <;> cases bMovable <;> rfl

/-! ### Pushes -/

/-- A push is as long as the boxes reach into each other, along the axis where that is less, and leads
away from where the other box is. -/
theorem push_spec (a b : Box Rat) :
    ∃ axis : Axis, depth a b axis ≤ depth a b axis.other ∧ (push a b).along axis.other = 0 ∧
      (push a b).along axis =
        away (b.center.along axis - a.center.along axis) * depth a b axis := by
  simp only [← penetration_along]
  rw [push]
  split
  · rename_i less
    exact ⟨.across, le_of_lt less, rfl, rfl⟩
  · rename_i more
    exact ⟨.down, not_lt.mp more, rfl, rfl⟩

theorem away_mul (distance depth : Rat) :
    away distance * depth = if 0 < distance then -depth else depth := by
  change (if 0 < distance then (-1 : Rat) else 1) * depth = _
  split
  · exact neg_one_mul depth
  · exact one_mul depth

/-- A distance grows by what is pushed away from it. -/
theorem abs_sub_away_mul {distance depth : Rat} (deep : 0 ≤ depth) :
    |distance - away distance * depth| = |distance| + depth := by
  rw [away_mul]
  split
  · rename_i right
    rw [abs_of_pos right, abs_of_nonneg (by linarith)]
    ring
  · rename_i left
    rw [abs_of_nonpos (not_lt.mp left), abs_of_nonpos (by linarith)]
    ring

theorem abs_away_mul {distance depth : Rat} (deep : 0 ≤ depth) :
    |away distance * depth| = depth := by
  rw [away_mul]
  split
  · rw [abs_neg, abs_of_nonneg deep]
  · exact abs_of_nonneg deep

/-- There is a push if the boxes overlap and one of them can be moved; each takes its share of it. -/
theorem separate_eq_some_iff :
    separate a b aMovable bMovable = some (pushA, pushB) ↔
      a.overlaps b = true ∧ ∃ aShare bShare, shares? aMovable bMovable = some (aShare, bShare) ∧
        pushA = (push a b).scale aShare ∧ pushB = (-push a b).scale bShare := by
  have shallow : ((penetration a b).x ≤ 0 ∨ (penetration a b).y ≤ 0) ↔ ¬ a.overlaps b = true := by
    rw [overlaps_iff, Axis.forall_iff .across, not_and_or, not_lt, not_lt, ← penetration_along,
      ← penetration_along]
    rfl
  rw [separate]
  cases shared : shares? (S := Rat) aMovable bMovable with
  | none => simp
  | some shares =>
    obtain ⟨aShare, bShare⟩ := shares
    dsimp only
    constructor
    · intro pushed
      split at pushed
      · cases pushed
      · rename_i deep
        cases pushed
        exact ⟨not_not.mp fun apart => deep (shallow.mpr apart), aShare, bShare, rfl, rfl, rfl⟩
    · rintro ⟨overlap, _, _, ⟨rfl, rfl⟩, rfl, rfl⟩
      exact if_neg fun apart => shallow.mp apart overlap

theorem isSome_separate (a b : Box Rat) (aMovable bMovable : Bool) :
    (separate a b aMovable bMovable).isSome = (a.overlaps b && (aMovable || bMovable)) := by
  rw [Bool.eq_iff_iff, Bool.and_eq_true, ← isSome_shares, Option.isSome_iff_exists,
    Option.isSome_iff_exists]
  constructor
  · rintro ⟨⟨pushA, pushB⟩, pushed⟩
    obtain ⟨overlap, aShare, bShare, shared, -⟩ := separate_eq_some_iff.mp pushed
    exact ⟨overlap, _, shared⟩
  · rintro ⟨overlap, ⟨aShare, bShare⟩, shared⟩
    exact ⟨_, separate_eq_some_iff.mpr ⟨overlap, aShare, bShare, shared, rfl, rfl⟩⟩

/-- Two boxes that are pushed apart along an axis. -/
structure Parted (a b : Box Rat) (aMovable bMovable : Bool) (pushA pushB : Vec Rat)
    (axis : Axis) : Prop where
  /-- They reach less far into each other along this axis than along the other one, if not as far, -/
  least : depth a b axis ≤ depth a b axis.other
  /-- and nothing is pushed along the other one. -/
  straight : pushA.along axis.other = 0 ∧ pushB.along axis.other = 0
  /-- The pushes differ by how far the boxes reach into each other. -/
  whole : |pushA.along axis - pushB.along axis| = depth a b axis
  /-- Who cannot be moved is not pushed. -/
  sparesFirst : aMovable = false → pushA = .zero
  sparesSecond : bMovable = false → pushB = .zero
  /-- Two who can be moved take opposite halves. -/
  halves : aMovable = true → bMovable = true →
    pushB = -pushA ∧ |pushA.along axis| = depth a b axis / 2
  /-- Afterwards the boxes do not overlap, -/
  apart : (a.shifted pushA).overlaps (b.shifted pushB) = false
  /-- and along the axis they touch. -/
  touch : gap (a.shifted pushA) (b.shifted pushB) axis =
    reach (a.shifted pushA) (b.shifted pushB) axis

/-- However the push along an axis is shared, afterwards the boxes touch there. -/
theorem gap_shifted {axis : Axis} {aShare bShare : Rat} (whole : aShare + bShare = 1)
    (own : (push a b).along axis =
      away (b.center.along axis - a.center.along axis) * depth a b axis)
    (deep : 0 ≤ depth a b axis) :
    gap (a.shifted ((push a b).scale aShare)) (b.shifted ((-push a b).scale bShare)) axis =
      reach a b axis := by
  have distance : (b.center + (-push a b).scale bShare).along axis -
      (a.center + (push a b).scale aShare).along axis =
        (b.center.along axis - a.center.along axis) - (push a b).along axis := by
    simp only [Vec.along_add, Vec.along_scale, Vec.along_neg]
    linear_combination (-(push a b).along axis) * whole
  rw [gap, shifted, shifted, distance, own, abs_sub_away_mul deep, depth, gap]
  ring

theorem parted_of_separate (pushed : separate a b aMovable bMovable = some (pushA, pushB)) :
    ∃ axis, Parted a b aMovable bMovable pushA pushB axis := by
  obtain ⟨overlap, aShare, bShare, shared, rfl, rfl⟩ := separate_eq_some_iff.mp pushed
  obtain ⟨axis, least, straight, own⟩ := push_spec a b
  obtain ⟨whole, sparesFirst, sparesSecond, halves⟩ := shares_spec shared
  have deep : 0 ≤ depth a b axis := (overlaps_iff.mp overlap axis).le
  have length : |(push a b).along axis| = depth a b axis := by
    rw [own]
    exact abs_away_mul deep
  have touch : gap (a.shifted ((push a b).scale aShare)) (b.shifted ((-push a b).scale bShare)) axis =
      reach a b axis := gap_shifted whole own deep
  refine ⟨axis, least, ⟨?_, ?_⟩, ?_, ?_, ?_, ?_, ?_, touch⟩
  · rw [Vec.along_scale, straight, zero_mul]
  · rw [Vec.along_scale, Vec.along_neg, straight, neg_zero, zero_mul]
  · rw [← length, Vec.along_scale, Vec.along_scale, Vec.along_neg]
    refine congrArg abs ?_
    linear_combination (push a b).along axis * whole
  · intro fixed
    rw [sparesFirst fixed, Vec.scale_zero]
  · intro fixed
    rw [sparesSecond fixed, Vec.scale_zero]
  · intro first second
    obtain ⟨rfl, rfl⟩ := halves first second
    constructor
    · apply Vec.ext_along
      intro axis
      simp only [Vec.along_scale, Vec.along_neg]
      ring
    · rw [Vec.along_scale, abs_mul, length, abs_of_pos (by norm_num)]
      ring
  · rw [← Bool.not_eq_true, overlaps_iff]
    intro deep
    exact absurd touch (sub_pos.mp (deep axis)).ne

end Box

/-! ### Settling -/

/-- A body before and after a push along an axis. -/
structure Body.Settled (before after : Body Rat) (push : Vec Rat) (axis : Axis) : Prop where
  across : after.velocity.along axis.other = before.velocity.along axis.other
  /-- The body does not move against the push. -/
  yields : 0 ≤ push.along axis * after.velocity.along axis
  /-- Who moved against it is thrown back, -/
  thrown : push.along axis * before.velocity.along axis < 0 →
    |after.velocity.along axis| = |before.velocity.along axis| * before.bounce
  /-- and who did not moves on. -/
  keeps : 0 ≤ push.along axis * before.velocity.along axis →
    after.velocity.along axis = before.velocity.along axis
  /-- A push upwards makes the body stand, and none takes its stand away. -/
  grounded : after.grounded = true ↔ before.grounded = true ∨ push.along .down < 0
  rest : after = { before with velocity := after.velocity, grounded := after.grounded }

namespace Body

theorem rebound_of_opposed {bounce push velocity : Rat} (opposed : push * velocity < 0) :
    rebound bounce push velocity = -velocity * bounce :=
  if_pos opposed

theorem rebound_of_agreed {bounce push velocity : Rat} (agreed : 0 ≤ push * velocity) :
    rebound bounce push velocity = velocity :=
  if_neg (not_lt.mpr agreed)

theorem mul_rebound_nonneg {bounce push velocity : Rat} (springy : 0 ≤ bounce) :
    0 ≤ push * rebound bounce push velocity := by
  rcases lt_or_ge (push * velocity) 0 with opposed | agreed
  · rw [rebound_of_opposed opposed]
    have turned : push * (-velocity * bounce) = -(push * velocity) * bounce := by ring
    rw [turned]
    exact mul_nonneg (neg_nonneg.mpr opposed.le) springy
  · rw [rebound_of_agreed agreed]
    exact agreed

theorem pushed_along (body : Body Rat) (push : Vec Rat) (axis : Axis) :
    (body.pushed push).velocity.along axis =
      rebound body.bounce (push.along axis) (body.velocity.along axis) := by
  cases axis <;> rfl

theorem grounded_pushed (body : Body Rat) (push : Vec Rat) :
    (body.pushed push).grounded = true ↔ body.grounded = true ∨ push.along .down < 0 := by
  simp only [pushed, Bool.or_eq_true, decide_eq_true_eq]
  rfl

theorem settled_pushed {body : Body Rat} (springy : 0 ≤ body.bounce) {push : Vec Rat} {axis : Axis}
    (straight : push.along axis.other = 0) : body.Settled (body.pushed push) push axis where
  across := by
    rw [pushed_along, straight]
    exact rebound_of_agreed (zero_mul _).ge
  yields := by
    rw [pushed_along]
    exact mul_rebound_nonneg springy
  thrown opposed := by
    rw [pushed_along, rebound_of_opposed opposed, abs_mul, abs_neg, abs_of_nonneg springy]
  keeps agreed := by
    rw [pushed_along, rebound_of_agreed agreed]
  grounded := grounded_pushed body push
  rest := rfl

/-- No push moves no body. -/
theorem pushed_zero (body : Body Rat) : body.pushed .zero = body := by
  have velocity : (body.pushed .zero).velocity = body.velocity := by
    apply Vec.ext_along
    intro axis
    rw [pushed_along, Vec.along_zero, rebound_of_agreed (zero_mul _).ge]
  have grounded : (body.pushed .zero).grounded = body.grounded := by
    rw [Bool.eq_iff_iff, grounded_pushed, Vec.along_zero]
    exact or_iff_left (lt_irrefl 0)
  have rest : body.pushed .zero =
      { body with
        velocity := (body.pushed .zero).velocity
        grounded := (body.pushed .zero).grounded } := rfl
  rw [rest, velocity, grounded]

end Body

namespace Actor

theorem pushed_zero (actor : Actor Rat T) : actor.pushed .zero = { actor with moved := true } :=
  if_pos rfl

/-- What a push does to an actor: it is displaced, and its body is pushed. -/
theorem pushed_eq (actor : Actor Rat T) (push : Vec Rat) :
    actor.pushed push =
      { actor with
        position := actor.position + push
        body := actor.body.map (·.pushed push)
        moved := true } := by
  by_cases none : push.isZero = true
  · have none : push = .zero := by
      obtain ⟨x, y⟩ := Bool.and_eq_true_iff.mp none
      exact congrArg₂ Vec.mk (eq_of_beq x) (eq_of_beq y)
    subst none
    have still : actor.position + Vec.zero = actor.position :=
      congrArg₂ Vec.mk (add_zero _) (add_zero _)
    have body : actor.body.map (·.pushed .zero) = actor.body := by
      simp only [Body.pushed_zero, Option.map_id']
    rw [pushed_zero, still, body]
  · exact if_neg none

theorem box_pushed (actor : Actor Rat T) (push : Vec Rat) :
    (actor.pushed push).box = actor.box.shifted push := by
  rw [pushed_eq]
  rfl

/-- An actor before and after a push along an axis. -/
structure Settled (before after : Actor Rat T) (push : Vec Rat) (axis : Axis) : Prop where
  /-- The actor takes the whole push, -/
  box : after.box = before.box.shifted push
  /-- and so does its body. -/
  body : ∀ body ∈ before.body, ∃ settled, after.body = some settled ∧ body.Settled settled push axis
  rest : after =
    { before with
      position := before.position + push
      body := after.body
      moved := true }

theorem settled_pushed {actor : Actor Rat T} (springy : ∀ body ∈ actor.body, 0 ≤ body.bounce)
    {push : Vec Rat} {axis : Axis} (straight : push.along axis.other = 0) :
    actor.Settled (actor.pushed push) push axis where
  box := actor.box_pushed push
  body body own := by
    refine ⟨body.pushed push, ?_, Body.settled_pushed (springy body own) straight⟩
    rw [pushed_eq, Option.mem_def.mp own]
    rfl
  rest := by
    rw [pushed_eq]

end Actor

/-- Two boxes are pushed apart exactly if they overlap, which either says of the other, and one of them
can be moved. The pushes lead along the axis where the boxes reach less far into each other, and
whoever takes one of them yields to it; no push changes nothing. -/
theorem Box.separates (a b : Box Rat) (aMovable bMovable : Bool) :
    b.overlaps a = a.overlaps b ∧
      (a.overlaps b = true ↔ ∀ axis, gap a b axis < reach a b axis) ∧
      ((∃ pushes, separate a b aMovable bMovable = some pushes) ↔
        a.overlaps b = true ∧ (aMovable = true ∨ bMovable = true)) ∧
      (∀ pushA pushB, separate a b aMovable bMovable = some (pushA, pushB) →
        ∃ axis, Parted a b aMovable bMovable pushA pushB axis ∧
          ∀ push, push = pushA ∨ push = pushB → ∀ actor : Actor Rat T,
            (∀ body ∈ actor.body, 0 ≤ body.bounce) →
              actor.Settled (actor.pushed push) push axis) ∧
      ∀ actor : Actor Rat T, actor.pushed .zero = { actor with moved := true } := by
  refine ⟨overlaps_comm a b, ?_, ?_, ?_, Actor.pushed_zero⟩
  · simp only [overlaps_iff, depth, sub_pos]
  · rw [← Option.isSome_iff_exists, isSome_separate, Bool.and_eq_true, Bool.or_eq_true]
  · intro pushA pushB pushed
    obtain ⟨axis, parted⟩ := parted_of_separate pushed
    refine ⟨axis, parted, ?_⟩
    rintro push (rfl | rfl) actor springy
    · exact Actor.settled_pushed springy parted.straight.1
    · exact Actor.settled_pushed springy parted.straight.2

namespace Sample

/-- A ball that flies to the right. -/
def ball : Actor Rat Rat where
  handle := ⟨0, 0⟩
  id := "ball"
  group := none
  transient := false
  position := ⟨0, 1⟩
  size := ⟨4, 4⟩
  visual := .circle 2 Color.white
  text := none
  body := some
    { movable := true, bounce := 1 / 2, bounded := false, grounded := false, velocity := ⟨6, 1⟩ }
  drift := none
  controls := none
  drawing := none
  moved := false
  rewritten := false

/-- A wall that the ball reaches into by one. -/
def wall : Box Rat := ⟨⟨3, 0⟩, ⟨2, 8⟩⟩

end Sample

/-- A ball is pushed back from a wall, which stays, and bounces off. -/
theorem Box.separates_ball :
    separate Sample.ball.box Sample.wall true false = some (⟨-1, 0⟩, .zero) ∧
      (∃ axis, Parted Sample.ball.box Sample.wall true false ⟨-1, 0⟩ .zero axis ∧
        Sample.ball.Settled (Sample.ball.pushed ⟨-1, 0⟩) ⟨-1, 0⟩ axis) ∧
      (Sample.ball.pushed ⟨-1, 0⟩).body.map (·.velocity) = some ⟨-3, 1⟩ := by
  have pushed : separate Sample.ball.box Sample.wall true false = some (⟨-1, 0⟩, .zero) := by
    decide +kernel
  obtain ⟨-, -, -, parts, -⟩ := Box.separates (T := Rat) Sample.ball.box Sample.wall true false
  obtain ⟨axis, parted, settled⟩ := parts _ _ pushed
  refine ⟨pushed, ⟨axis, parted, settled _ (.inl rfl) _ ?_⟩, ?_⟩
  · rintro body own
    cases own
    decide +kernel
  · decide +kernel

end Arcade
