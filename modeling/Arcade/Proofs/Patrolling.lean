import Arcade.Behavior
import Arcade.Proofs.Parting
import Mathlib.Algebra.Order.Archimedean.Basic
import Mathlib.Data.Rat.Floor

/-! A body on patrol, in exact fractions. Its velocity is chosen anew in every frame from its place and
its velocity alone, with no memory of having turned. That it does not turn back and forth beyond its
range is an invariant of the frames: a body beyond the range still moves away from its anchor, so it
turns, and one frame of movement takes it inside, however far that frame took it out. -/

namespace Arcade

/-! ### The choice of a velocity -/

namespace Behavior

variable {x velocity anchor range speed : Rat}

theorem sign_eq_iff {a b : Rat} :
    (Scalar.sign a == Scalar.sign b) = true ↔ (a < 0 ↔ b < 0) := by
  change ((if a < 0 then (-1 : Rat) else 1) == (if b < 0 then -1 else 1)) = true ↔ _
  by_cases left : a < 0 <;> by_cases right : b < 0 <;> simp [left, right] <;> decide

theorem patrol_eq (x velocity anchor range speed : Rat) :
    patrol x velocity anchor range speed =
      if velocity = 0 then
        if range ≤ |x - anchor| then -Scalar.sign (x - anchor) * speed else speed
      else if range ≤ |x - anchor| ∧ (velocity < 0 ↔ x - anchor < 0) then -velocity
      else velocity := by
  have turns : (decide (range ≤ |x - anchor|) &&
      Scalar.sign velocity == Scalar.sign (x - anchor)) = true ↔
      range ≤ |x - anchor| ∧ (velocity < 0 ↔ x - anchor < 0) := by
    rw [Bool.and_eq_true, decide_eq_true_eq, sign_eq_iff]
  simp only [patrol, Scalar.abs_rat, turns, decide_eq_true_eq, beq_iff_eq]
  rfl

/-- Within its range a body that moves goes on. -/
theorem patrol_within (moves : velocity ≠ 0) (within : |x - anchor| < range) :
    patrol x velocity anchor range speed = velocity := by
  rw [patrol_eq, if_neg moves, if_neg (fun turns => not_le.mpr within turns.1)]

/-- A body at rest within its range starts in the positive direction. -/
theorem patrol_from_rest (within : |x - anchor| < range) :
    patrol x 0 anchor range speed = speed := by
  rw [patrol_eq, if_pos rfl, if_neg (not_le.mpr within)]

/-- A body that moves away beyond its range turns. -/
theorem patrol_turns (beyond : range ≤ |x - anchor|) (away : 0 < velocity * (x - anchor)) :
    patrol x velocity anchor range speed = -velocity := by
  have same : velocity < 0 ↔ x - anchor < 0 := by
    rcases mul_pos_iff.mp away with ⟨left, right⟩ | ⟨left, right⟩
    · exact iff_of_false left.not_gt right.not_gt
    · exact iff_of_true left right
  rw [patrol_eq, if_neg (left_ne_zero_of_mul away.ne'), if_pos ⟨beyond, same⟩]

/-- A body at rest beyond its range starts towards its anchor. -/
theorem patrol_homewards (positive : 0 < range) (quick : 0 < speed)
    (beyond : range ≤ |x - anchor|) :
    |patrol x 0 anchor range speed| = speed ∧ patrol x 0 anchor range speed * (x - anchor) < 0 := by
  have off : x - anchor ≠ 0 := abs_pos.mp (positive.trans_le beyond)
  have sign : Scalar.sign (x - anchor) = if x - anchor < 0 then (-1 : Rat) else 1 := rfl
  rw [patrol_eq, if_pos rfl, if_pos beyond, sign]
  split
  · rename_i negative
    rw [neg_neg, one_mul]
    exact ⟨abs_of_pos quick, mul_neg_of_pos_of_neg quick negative⟩
  · rename_i positive
    have right : 0 < x - anchor := lt_of_le_of_ne (not_lt.mp positive) off.symm
    rw [neg_one_mul, abs_neg]
    exact ⟨abs_of_pos quick, mul_neg_of_neg_of_pos (neg_neg_of_pos quick) right⟩

end Behavior

/-! ### The frames of a patrol -/

/-- A patrol: around which place, how far, how fast from rest, and how long a frame is. -/
structure Patrol where
  anchor : Rat
  range : Rat
  speed : Rat
  frame : Rat
  range_pos : 0 < range
  speed_pos : 0 < speed
  frame_pos : 0 < frame

namespace Patrol

/-- Where a body is, and how fast it moves. -/
structure Motion where
  place : Rat
  velocity : Rat

/-- One frame: the velocity is chosen, and the body moves with it. -/
def step (patrol : Patrol) (motion : Motion) : Motion :=
  let velocity := Behavior.patrol motion.place motion.velocity patrol.anchor patrol.range
    patrol.speed
  ⟨motion.place + velocity * patrol.frame, velocity⟩

/-- A body that was at the anchor with some velocity, after a number of frames. -/
def after (patrol : Patrol) (velocity : Rat) : Nat → Motion
  | 0 => ⟨patrol.anchor, velocity⟩
  | frames + 1 => patrol.step (patrol.after velocity frames)

/-- How fast a patrol goes that begins with some velocity. -/
def pace (patrol : Patrol) (velocity : Rat) : Rat :=
  if velocity = 0 then patrol.speed else |velocity|

/-- On which side of the anchor, and how far from it, the body is. -/
def offset (patrol : Patrol) (velocity : Rat) (frames : Nat) : Rat :=
  (patrol.after velocity frames).place - patrol.anchor

/-- In the next frame the velocity has the opposite sign. -/
def Turns (patrol : Patrol) (velocity : Rat) (frames : Nat) : Prop :=
  (patrol.after velocity frames).velocity * (patrol.after velocity (frames + 1)).velocity < 0

/-- From beyond the range on one side of the anchor the body comes to be beyond it on the other side,
and on its way it is within the range. -/
structure Traverses (patrol : Patrol) (velocity : Rat) (first last : Nat) : Prop where
  order : first < last
  leaves : patrol.range ≤ |patrol.offset velocity first|
  arrives : patrol.range ≤ |patrol.offset velocity last|
  across : patrol.offset velocity first * patrol.offset velocity last < 0
  between : ∀ frames, first < frames → frames < last →
    |patrol.offset velocity frames| < patrol.range

variable {patrol : Patrol} {velocity : Rat} {frames first last : Nat}

theorem pace_pos (patrol : Patrol) (velocity : Rat) : 0 < patrol.pace velocity := by
  unfold pace
  split
  · exact patrol.speed_pos
  · rename_i moves
    exact abs_pos.mpr moves

/-! ### What a frame does -/

/-- What every frame keeps: the body has its pace, and where it is beyond its range, it got there with
its last frame and still moves away. -/
structure Regular (patrol : Patrol) (pace : Rat) (motion : Motion) : Prop where
  steady : |motion.velocity| = pace
  ahead : patrol.range ≤ motion.place - patrol.anchor → 0 < motion.velocity ∧
    motion.place - patrol.anchor < patrol.range + pace * patrol.frame
  behind : motion.place - patrol.anchor ≤ -patrol.range → motion.velocity < 0 ∧
    -(patrol.range + pace * patrol.frame) < motion.place - patrol.anchor

variable {pace : Rat} {motion : Motion}

theorem Regular.away (regular : patrol.Regular pace motion)
    (beyond : patrol.range ≤ |motion.place - patrol.anchor|) :
    0 < motion.velocity * (motion.place - patrol.anchor) := by
  have far := patrol.range_pos
  rcases le_abs.mp beyond with ahead | behind
  · exact mul_pos (regular.ahead ahead).1 (far.trans_le ahead)
  · have left : motion.place - patrol.anchor ≤ -patrol.range := le_neg_of_le_neg behind
    exact mul_pos_of_neg_of_neg (regular.behind left).1 (by linarith)

theorem Regular.moves (regular : patrol.Regular pace motion) (positive : 0 < pace) :
    motion.velocity ≠ 0 := by
  rw [← abs_pos, regular.steady]
  exact positive

theorem Regular.close (regular : patrol.Regular pace motion) (positive : 0 < pace) :
    |motion.place - patrol.anchor| < patrol.range + pace * patrol.frame := by
  have stride : 0 < pace * patrol.frame := mul_pos positive patrol.frame_pos
  by_cases within : |motion.place - patrol.anchor| < patrol.range
  · linarith
  · have far := patrol.range_pos
    rcases le_abs.mp (not_lt.mp within) with ahead | behind
    · exact abs_lt.mpr ⟨by linarith, (regular.ahead ahead).2⟩
    · have left : motion.place - patrol.anchor ≤ -patrol.range := le_neg_of_le_neg behind
      exact abs_lt.mpr ⟨(regular.behind left).2, by linarith⟩

/-- Within its range a body keeps its velocity. -/
theorem Regular.goes_on (regular : patrol.Regular pace motion) (positive : 0 < pace)
    (within : |motion.place - patrol.anchor| < patrol.range) :
    patrol.step motion = ⟨motion.place + motion.velocity * patrol.frame, motion.velocity⟩ := by
  rw [step, Behavior.patrol_within (regular.moves positive) within]

/-- Beyond its range a body turns. -/
theorem Regular.turns_back (regular : patrol.Regular pace motion)
    (beyond : patrol.range ≤ |motion.place - patrol.anchor|) :
    patrol.step motion = ⟨motion.place - motion.velocity * patrol.frame, -motion.velocity⟩ := by
  rw [step, Behavior.patrol_turns beyond (regular.away beyond), neg_mul, ← sub_eq_add_neg]

theorem Regular.step (regular : patrol.Regular pace motion) (positive : 0 < pace) :
    patrol.Regular pace (patrol.step motion) := by
  have stride : 0 < pace * patrol.frame := mul_pos positive patrol.frame_pos
  have far := patrol.range_pos
  have sense : motion.velocity = pace ∨ motion.velocity = -pace := by
    rw [← abs_eq positive.le]
    exact regular.steady
  by_cases within : |motion.place - patrol.anchor| < patrol.range
  · obtain ⟨low, high⟩ := abs_lt.mp within
    rw [regular.goes_on positive within]
    refine ⟨regular.steady, ?_, ?_⟩
    all_goals
      intro beyond
      rcases sense with forth | back
      · rw [forth] at beyond ⊢
        constructor <;> linarith
      · rw [back] at beyond ⊢
        constructor <;> linarith
  · rw [regular.turns_back (not_lt.mp within)]
    refine ⟨by rw [abs_neg]; exact regular.steady, ?_, ?_⟩
    all_goals
      intro beyond
      rcases le_abs.mp (not_lt.mp within) with ahead | behind
      · obtain ⟨away, near⟩ := regular.ahead ahead
        rcases sense with forth | back
        · rw [forth] at beyond ⊢
          constructor <;> linarith
        · linarith
      · obtain ⟨away, near⟩ := regular.behind (le_neg_of_le_neg behind)
        rcases sense with forth | back
        · linarith
        · rw [back] at beyond ⊢
          constructor <;> linarith

/-! ### All frames -/

/-- The velocity with which a body sets out. -/
def setOut (patrol : Patrol) (velocity : Rat) : Rat :=
  if velocity = 0 then patrol.speed else velocity

theorem abs_setOut (patrol : Patrol) (velocity : Rat) :
    |patrol.setOut velocity| = patrol.pace velocity := by
  unfold setOut pace
  split
  · exact abs_of_pos patrol.speed_pos
  · rfl

/-- At the anchor a body is within its range. -/
theorem within_anchor (patrol : Patrol) : |patrol.anchor - patrol.anchor| < patrol.range := by
  rw [sub_self, abs_zero]
  exact patrol.range_pos

/-- A body at rest sets out like one that moves, so the first frame is the same for both. -/
theorem after_setOut (patrol : Patrol) (velocity : Rat) (frames : Nat) :
    patrol.after velocity (frames + 1) = patrol.after (patrol.setOut velocity) (frames + 1) := by
  induction frames with
  | zero =>
    by_cases rest : velocity = 0
    · have quick : patrol.speed ≠ 0 := patrol.speed_pos.ne'
      subst rest
      simp only [after, step, setOut, if_pos, Behavior.patrol_from_rest patrol.within_anchor,
        Behavior.patrol_within quick patrol.within_anchor]
    · rw [setOut, if_neg rest]
  | succ frames ih => exact congrArg patrol.step ih

theorem regular_setOut (patrol : Patrol) (velocity : Rat) (frames : Nat) :
    patrol.Regular (patrol.pace velocity) (patrol.after (patrol.setOut velocity) frames) := by
  induction frames with
  | zero =>
    have far := patrol.range_pos
    refine ⟨patrol.abs_setOut velocity, ?_, ?_⟩
    all_goals
      intro beyond
      change _ at beyond
      simp only [after, sub_self] at beyond
      linarith
  | succ frames ih => exact ih.step (patrol.pace_pos velocity)

theorem regular_after (patrol : Patrol) (velocity : Rat) (frames : Nat) :
    patrol.Regular (patrol.pace velocity) (patrol.after velocity (frames + 1)) := by
  rw [after_setOut]
  exact patrol.regular_setOut velocity (frames + 1)

theorem offset_zero (patrol : Patrol) (velocity : Rat) : patrol.offset velocity 0 = 0 := sub_self _

theorem abs_offset_lt (patrol : Patrol) (velocity : Rat) (frames : Nat) :
    |patrol.offset velocity frames| <
      patrol.range + patrol.pace velocity * patrol.frame := by
  cases frames with
  | zero =>
    have stride : 0 < patrol.pace velocity * patrol.frame :=
      mul_pos (patrol.pace_pos velocity) patrol.frame_pos
    rw [offset_zero, abs_zero]
    exact add_pos patrol.range_pos stride
  | succ frames => exact (patrol.regular_after velocity frames).close (patrol.pace_pos velocity)

/-- After the first frame the frames within the range keep the velocity. -/
theorem velocity_succ_of_within (within : |patrol.offset velocity (frames + 1)| < patrol.range) :
    (patrol.after velocity (frames + 2)).velocity =
      (patrol.after velocity (frames + 1)).velocity := by
  have regular := patrol.regular_after velocity frames
  exact (congrArg Motion.velocity (regular.goes_on (patrol.pace_pos velocity) within) :)

/-- A body turns where it is beyond its range, and nowhere else. -/
theorem turns_iff : patrol.Turns velocity frames ↔ patrol.range ≤ |patrol.offset velocity frames| := by
  cases frames with
  | zero =>
    have sets : (patrol.after velocity 1).velocity = patrol.setOut velocity := by
      rw [after_setOut]
      have moves : patrol.setOut velocity ≠ 0 := by
        rw [← abs_pos, abs_setOut]
        exact patrol.pace_pos velocity
      exact Behavior.patrol_within moves patrol.within_anchor
    have forth : 0 ≤ velocity * patrol.setOut velocity := by
      unfold setOut
      split
      · rename_i rest
        rw [rest, zero_mul]
      · exact mul_self_nonneg velocity
    refine iff_of_false ?_ ?_
    · rw [Turns, sets]
      exact not_lt.mpr forth
    · rw [offset_zero, abs_zero]
      exact not_le.mpr patrol.range_pos
  | succ frames =>
    have regular := patrol.regular_after velocity frames
    have moves : 0 < (patrol.after velocity (frames + 1)).velocity *
        (patrol.after velocity (frames + 1)).velocity :=
      mul_self_pos.mpr (regular.moves (patrol.pace_pos velocity))
    by_cases within : |patrol.offset velocity (frames + 1)| < patrol.range
    · refine iff_of_false ?_ (not_le.mpr within)
      rw [Turns, velocity_succ_of_within within]
      exact moves.not_gt
    · have beyond := not_lt.mp within
      refine iff_of_true ?_ beyond
      have turned : (patrol.after velocity (frames + 2)).velocity =
          -(patrol.after velocity (frames + 1)).velocity :=
        (congrArg Motion.velocity (regular.turns_back beyond) :)
      rw [Turns, turned, mul_neg]
      exact neg_neg_of_pos moves

/-! ### From one end to the other -/

/-- As long as a body is within its range it goes on in a straight line. -/
theorem straight (patrol : Patrol) (velocity : Rat) (frames count : Nat)
    (within : ∀ k < count, |patrol.offset velocity (frames + 1 + k)| < patrol.range) :
    patrol.after velocity (frames + 1 + count) =
      ⟨(patrol.after velocity (frames + 1)).place +
        count * ((patrol.after velocity (frames + 1)).velocity * patrol.frame),
        (patrol.after velocity (frames + 1)).velocity⟩ := by
  induction count with
  | zero => simp
  | succ count ih =>
    have before := ih fun k early => within k (Nat.lt_succ_of_lt early)
    have regular := patrol.regular_setOut velocity (frames + 1 + count)
    rw [Nat.add_right_comm, ← after_setOut, ← Nat.add_right_comm] at regular
    have next : patrol.after velocity (frames + 1 + (count + 1)) =
        patrol.step (patrol.after velocity (frames + 1 + count)) := rfl
    rw [next, regular.goes_on (patrol.pace_pos velocity) (within count (Nat.lt_succ_self count)),
      before]
    simp only [Motion.mk.injEq, and_true]
    push_cast
    ring

/-- However long a body has been within its range, it leaves it. -/
theorem exists_beyond (patrol : Patrol) (velocity : Rat) (frames : Nat) :
    ∃ later, frames < later ∧ patrol.range ≤ |patrol.offset velocity later| := by
  by_contra! within
  have stride : 0 < patrol.pace velocity * patrol.frame :=
    mul_pos (patrol.pace_pos velocity) patrol.frame_pos
  obtain ⟨count, enough⟩ := exists_nat_gt (2 * patrol.range / (patrol.pace velocity * patrol.frame))
  have long : 2 * patrol.range < count * (patrol.pace velocity * patrol.frame) :=
    (div_lt_iff₀ stride).mp enough
  have start := within (frames + 1) (Nat.lt_succ_self frames)
  have stop := within (frames + 1 + count) (by omega)
  have path := patrol.straight velocity frames count
    fun k _ => within _ (by omega)
  have moved : patrol.offset velocity (frames + 1 + count) - patrol.offset velocity (frames + 1) =
      count * ((patrol.after velocity (frames + 1)).velocity * patrol.frame) := by
    rw [offset, offset, path]
    ring
  have length : |patrol.offset velocity (frames + 1 + count) -
      patrol.offset velocity (frames + 1)| = count * (patrol.pace velocity * patrol.frame) := by
    rw [moved, abs_mul, abs_mul, (patrol.regular_after velocity frames).steady, Nat.abs_cast,
      abs_of_pos patrol.frame_pos]
  have apart := abs_sub (patrol.offset velocity (frames + 1 + count))
    (patrol.offset velocity (frames + 1))
  linarith

theorem pos_of_beyond (beyond : patrol.range ≤ |patrol.offset velocity frames|) : 0 < frames := by
  cases frames with
  | zero =>
    rw [offset_zero, abs_zero] at beyond
    exact absurd patrol.range_pos (not_lt.mpr beyond)
  | succ frames => exact Nat.succ_pos frames

theorem away_of_beyond (beyond : patrol.range ≤ |patrol.offset velocity frames|) :
    0 < (patrol.after velocity frames).velocity * patrol.offset velocity frames := by
  obtain ⟨before, rfl⟩ := Nat.exists_eq_add_of_lt (pos_of_beyond beyond)
  rw [Nat.zero_add] at beyond ⊢
  exact (patrol.regular_after velocity before).away beyond

/-- A body that turned goes straight on to the other side. -/
theorem traverses_of_next (order : first < last)
    (leaves : patrol.range ≤ |patrol.offset velocity first|)
    (arrives : patrol.range ≤ |patrol.offset velocity last|)
    (between : ∀ frames, first < frames → frames < last →
      |patrol.offset velocity frames| < patrol.range) :
    patrol.Traverses velocity first last := by
  refine ⟨order, leaves, arrives, ?_, between⟩
  obtain ⟨count, rfl⟩ := Nat.exists_eq_add_of_lt order
  have out := away_of_beyond leaves
  have back := away_of_beyond arrives
  have turned : (patrol.after velocity (first + 1)).velocity =
      -(patrol.after velocity first).velocity := by
    obtain ⟨before, rfl⟩ := Nat.exists_eq_add_of_lt (pos_of_beyond leaves)
    rw [Nat.zero_add] at leaves ⊢
    exact (congrArg Motion.velocity
      ((patrol.regular_after velocity before).turns_back leaves) :)
  have path := patrol.straight velocity first count
    fun k early => between _ (by omega) (by omega)
  have held : (patrol.after velocity (first + count + 1)).velocity =
      -(patrol.after velocity first).velocity := by
    rw [Nat.add_right_comm, path, turned]
  rw [held, neg_mul, neg_pos] at back
  have product := mul_neg_of_pos_of_neg out back
  rw [mul_mul_mul_comm] at product
  exact neg_of_mul_neg_right product (mul_self_nonneg _)

/-- Every turn begins a way to the other side. -/
theorem Turns.exists_traverses (turns : patrol.Turns velocity first) :
    ∃ last, patrol.Traverses velocity first last := by
  classical
  have ends := patrol.exists_beyond velocity first
  refine ⟨Nat.find ends, traverses_of_next (Nat.find_spec ends).1 (turns_iff.mp turns)
    (Nat.find_spec ends).2 ?_⟩
  intro frames later early
  by_contra! beyond
  exact Nat.find_min ends early ⟨later, beyond⟩

/-- What a body on patrol does. -/
structure KeepsBeat (patrol : Patrol) (velocity : Rat) : Prop where
  /-- From the first frame on it has one speed. -/
  steady : ∀ frames, |(patrol.after velocity (frames + 1)).velocity| = patrol.pace velocity
  /-- It is never as far as a whole frame of movement out of its range. -/
  close : ∀ frames, |patrol.offset velocity frames| <
    patrol.range + patrol.pace velocity * patrol.frame
  /-- It turns only where it is not within its range. -/
  beyond : ∀ frames, patrol.Turns velocity frames → patrol.range ≤ |patrol.offset velocity frames|
  /-- One turn and the next are on opposite sides of its anchor. -/
  opposite : ∀ first last, first < last → patrol.Turns velocity first →
    patrol.Turns velocity last →
    (∀ frames, first < frames → frames < last → ¬ patrol.Turns velocity frames) →
    patrol.offset velocity first * patrol.offset velocity last < 0
  /-- On its way from one side to the other it turns once. -/
  once : ∀ first last, patrol.Traverses velocity first last →
    ∃! frames, (first ≤ frames ∧ frames < last) ∧ patrol.Turns velocity frames
  /-- Every turn begins such a way. -/
  crosses : ∀ first, patrol.Turns velocity first → ∃ last, patrol.Traverses velocity first last
  /-- There is always one more turn. -/
  endless : ∀ frames, ∃ later, frames < later ∧ patrol.Turns velocity later

/-- A body that patrols from its anchor keeps its speed, stays closer than one frame of movement to
its range, and turns once on each way from one side to the other, beyond its range and on alternate
sides, however long a frame is. At rest beyond its range it starts towards its anchor. -/
theorem keeps_beat (patrol : Patrol) (velocity : Rat) :
    patrol.KeepsBeat velocity ∧
    ∀ place, patrol.range ≤ |place - patrol.anchor| →
      |Behavior.patrol place 0 patrol.anchor patrol.range patrol.speed| = patrol.speed ∧
      Behavior.patrol place 0 patrol.anchor patrol.range patrol.speed *
        (place - patrol.anchor) < 0 := by
  refine ⟨⟨?_, patrol.abs_offset_lt velocity, fun frames turns => turns_iff.mp turns, ?_, ?_,
    fun first turns => turns.exists_traverses, ?_⟩, ?_⟩
  · exact fun frames => (patrol.regular_after velocity frames).steady
  · intro first last order leaves arrives between
    refine (traverses_of_next order (turns_iff.mp leaves) (turns_iff.mp arrives) ?_).across
    intro frames later early
    exact not_le.mp fun beyond => between frames later early (turns_iff.mpr beyond)
  · intro first last way
    refine ⟨first, ⟨⟨le_refl first, way.order⟩, turns_iff.mpr way.leaves⟩, ?_⟩
    rintro frames ⟨⟨late, early⟩, turns⟩
    by_contra other
    have within := way.between frames (lt_of_le_of_ne late (Ne.symm other)) early
    exact not_le.mpr within (turns_iff.mp turns)
  · intro frames
    obtain ⟨later, order, beyond⟩ := patrol.exists_beyond velocity frames
    exact ⟨later, order, turns_iff.mpr beyond⟩
  · exact fun place => Behavior.patrol_homewards patrol.range_pos patrol.speed_pos

/-- A patrol whose frames reach over its whole range. -/
def Sample.sentry : Patrol where
  anchor := 200
  range := 100
  speed := 50
  frame := 5
  range_pos := by norm_num
  speed_pos := by norm_num
  frame_pos := by norm_num

theorem keeps_beat_sentry :
    Sample.sentry.KeepsBeat 0 ∧ |Behavior.patrol 300 0 200 100 50| = (50 : Rat) ∧
      Behavior.patrol 300 0 200 100 50 * (300 - 200) < (0 : Rat) :=
  ⟨(keeps_beat Sample.sentry 0).1,
    (keeps_beat Sample.sentry 0).2 300 (by simp only [Sample.sentry]; norm_num)⟩

end Patrol

end Arcade
