import Arcade.Proofs.Nearest

/-! Comparing and storing numbers of a binary format. They are compared as the fractions that they are, also
when those that are too large are stored as infinity. -/

namespace Arcade.Number

open Float.Model (Format UnpackedFloat)
open Float.Model.UnpackedFloat

variable {format : Format} {m n : Nat} {e f : Int} {x : ℚ} {a b : UnpackedFloat}

/-! ### Order -/

theorem compare_swap (a b : UnpackedFloat) : b.compare a = (a.compare b).map Ordering.swap := by
  cases a with
  | notANumber => cases b <;> rfl
  | infinity s =>
    cases b with
    | notANumber => cases s <;> rfl
    | infinity t => cases s <;> cases t <;> rfl
    | zero t => cases s <;> rfl
    | finite t n f some => cases s <;> rfl
  | zero s =>
    cases b with
    | notANumber => rfl
    | infinity t => cases t <;> rfl
    | zero t => rfl
    | finite t n f some => cases t <;> rfl
  | finite s m e some =>
    cases b with
    | notANumber => cases s <;> rfl
    | infinity t => cases s <;> cases t <;> rfl
    | zero t => cases s <;> rfl
    | finite t n f positive =>
      have exponents : compare f e = (compare e f).swap := (Int.compare_swap e f).symm
      have mantissas : compare n m = (compare m n).swap := (Nat.compare_swap m n).symm
      cases s <;> cases t <;>
        simp [UnpackedFloat.compare, exponents, mantissas, Ordering.swap_then]

/-- Only what is not a number cannot be compared with itself. -/
theorem compare_self {a b : UnpackedFloat} (comparable : (a.compare b).isSome = true) :
    a.compare a = some .eq := by
  cases a with
  | notANumber => cases comparable
  | infinity s => cases s <;> rfl
  | zero s => rfl
  | finite s m e some => cases s <;> simp [UnpackedFloat.compare]

theorem comparable_of_finite {a b : UnpackedFloat} (left : a.isFinite = true)
    (right : b.isFinite = true) : (a.compare b).isSome = true := by
  cases a with
  | notANumber => cases left
  | infinity s => cases left
  | zero s =>
    cases b with
    | notANumber => cases right
    | infinity t => cases right
    | zero t => rfl
    | finite t n f some => cases t <;> rfl
  | finite s m e some =>
    cases b with
    | notANumber => cases right
    | infinity t => cases right
    | zero t => cases s <;> rfl
    | finite t n f positive => cases s <;> cases t <;> rfl

theorem isLE_then_iff (m n : Nat) (e f : Int) :
    ((compare e f).then (compare m n)).isLE = true ↔ Below m e n f := by
  unfold Below
  rcases lt_trichotomy e f with less | rfl | more
  · simp [Int.compare_eq_lt.mpr less, less, Ordering.then]
  · simp [Ordering.then, Nat.isLE_compare]
  · simp [Int.compare_eq_gt.mpr more, Ordering.then, more.ne', more.le]

theorem Canonical.below_iff (left : Canonical format m e) (right : Canonical format n f)
    (some : 0 < m) : Below m e n f ↔ size m e ≤ size n f :=
  ⟨left.size_le right, left.below right some⟩

theorem signed_pos (positive : 0 < x) : 0 < signed .positive x := positive

theorem signed_negative (positive : 0 < x) : signed .negative x < 0 := neg_neg_of_pos positive

/-- Numbers of a format are compared as the fractions that they are. -/
theorem le_iff_value_le (left : Fitted format a) (right : Fitted format b) :
    a.le b = true ↔ value a ≤ value b := by
  cases a with
  | infinity => exact left.elim
  | notANumber => exact left.elim
  | zero s =>
    cases b with
    | infinity => exact right.elim
    | notANumber => exact right.elim
    | zero t => exact iff_of_true rfl le_rfl
    | finite t n f positive =>
      cases t
      · exact iff_of_false nofun (signed_negative (size_pos positive)).not_ge
      · exact iff_of_true rfl (signed_pos (size_pos positive)).le
  | finite s m e some =>
    cases b with
    | infinity => exact right.elim
    | notANumber => exact right.elim
    | zero t =>
      cases s
      · exact iff_of_true rfl (signed_negative (size_pos some)).le
      · exact iff_of_false nofun (signed_pos (size_pos some)).not_ge
    | finite t n f positive =>
      cases s <;> cases t
      · have swapped : ((compare e f).then (compare m n)).swap = (compare f e).then (compare n m) := by
          rw [Ordering.swap_then, Int.compare_swap, Nat.compare_swap]
        change ((compare e f).then (compare m n)).swap.isLE = true ↔ _
        rw [swapped]
        exact (isLE_then_iff n m f e).trans
          ((Canonical.below_iff right left positive).trans neg_le_neg_iff.symm)
      · exact iff_of_true rfl ((signed_negative (size_pos some)).trans (signed_pos (size_pos positive))).le
      · exact iff_of_false nofun
          ((signed_negative (size_pos positive)).trans (signed_pos (size_pos some))).not_ge
      · exact (isLE_then_iff m n e f).trans (Canonical.below_iff left right some)

theorem Fitted.isFinite (fitted : Fitted format a) : a.isFinite = true := by
  cases a with
  | infinity => exact fitted.elim
  | notANumber => exact fitted.elim
  | zero => rfl
  | finite => rfl

theorem lt_iff_value_lt (left : Fitted format a) (right : Fitted format b) :
    a.lt b = true ↔ value a < value b := by
  rw [← not_le, ← le_iff_value_le right left]
  obtain ⟨order, same⟩ := Option.isSome_iff_exists.mp
    (comparable_of_finite left.isFinite right.isFinite)
  rw [UnpackedFloat.lt, UnpackedFloat.le, compare_swap a b, same]
  cases order <;> decide

/-! ### Storing -/

/-- What a number is taken for when it is read back. -/
def stored (format : Format) (number : UnpackedFloat) : UnpackedFloat :=
  unpack format (pack format number)

/-- A number that the format can hold. -/
def Proper (format : Format) : UnpackedFloat → Prop
  | .zero _ => True
  | .finite _ mantissa exponent _ =>
    Canonical format mantissa exponent ∧ exponent ≤ topExponent format
  | .infinity _ | .notANumber => False

theorem Proper.fitted (proper : Proper format a) : Fitted format a := by
  cases a with
  | infinity => exact proper.elim
  | notANumber => exact proper.elim
  | zero => trivial
  | finite => exact proper.1

/-- A number is stored as it is, unless it is too large. -/
theorem stored_cases (fitted : Fitted format a) :
    (Proper format a ∧ stored format a = a) ∨
      ∃ sign m e some, a = .finite sign m e some ∧ topExponent format < e ∧
        stored format a = .infinity sign := by
  cases a with
  | infinity => exact fitted.elim
  | notANumber => exact fitted.elim
  | zero s => exact .inl ⟨trivial, unpack_packedZero⟩
  | finite s m e some =>
    rcases le_or_gt e (topExponent format) with fine | large
    · exact .inl ⟨⟨fitted, fine⟩, unpack_pack fitted fine⟩
    · exact .inr ⟨s, m, e, some, rfl, large, unpack_pack_large large⟩

theorem Proper.stored (proper : Proper format a) : stored format a = a := by
  rcases stored_cases proper.fitted with ⟨-, same⟩ | ⟨s, m, e, some, rfl, large, -⟩
  · exact same
  · exact absurd proper.2 large.not_ge

theorem proper_unpack (wide : 1 < format.exponentBits) {bits : BitVec format.numBits}
    (finite : (unpack format bits).isFinite = true) : Proper format (unpack format bits) := by
  cases unpacked : unpack format bits with
  | infinity s =>
    rw [unpacked] at finite
    cases finite
  | notANumber =>
    rw [unpacked] at finite
    cases finite
  | zero s => trivial
  | finite s m e some => exact canonical_unpack wide unpacked

theorem Canonical.exponent_le (left : Canonical format m e) (right : Canonical format n f)
    (some : 0 < m) (le : size m e ≤ size n f) : e ≤ f := by
  have below := left.below right some le
  unfold Below at below
  omega

/-- A number that is not negative and not larger than what the format can hold can be held too. -/
theorem Proper.of_value_le (proper : Proper format b) (fitted : Fitted format a)
    (forward : 0 ≤ value a) (le : value a ≤ value b) : Proper format a := by
  cases a with
  | infinity => exact fitted.elim
  | notANumber => exact fitted.elim
  | zero => trivial
  | finite s m e some =>
    refine ⟨fitted, ?_⟩
    have positive := size_pos (e := e) some
    cases s
    · exact absurd forward (signed_negative positive).not_ge
    · cases b with
      | infinity => exact proper.elim
      | notANumber => exact proper.elim
      | zero t => exact absurd le positive.not_ge
      | finite t n f positive' =>
        cases t
        · exact absurd (le.trans_lt (signed_negative (size_pos positive'))) positive.not_gt
        · exact (Canonical.exponent_le fitted proper.1 some le).trans proper.2

theorem Proper.neg (proper : Proper format a) : Proper format a.neg := by
  cases a with
  | infinity => exact proper
  | notANumber => exact proper
  | zero => exact proper
  | finite => exact proper

/-- What is too large is larger than all that the format can hold. -/
theorem not_le_of_large (proper : Proper format a) (positive : 0 < n)
    (canonical : Canonical format n f) (large : topExponent format < f) : ¬ size n f ≤ value a := by
  intro le
  have small : Proper format (.finite .positive n f positive) :=
    proper.of_value_le canonical (size_pos positive).le le
  exact absurd small.2 large.not_ge

/-- Storing keeps the order, also of what is too large. -/
theorem stored_le_stored (left : Fitted format a) (right : Fitted format b)
    (le : value a ≤ value b) : (stored format a).le (stored format b) = true := by
  rcases stored_cases left with ⟨small, same⟩ | ⟨s, m, e, some, rfl, large, same⟩ <;>
    rcases stored_cases right with ⟨fine, other⟩ | ⟨t, n, f, positive, rfl, above, other⟩ <;>
      rw [same, other]
  · exact (le_iff_value_le left right).mpr le
  · cases t
    · -- the opposite of the second is too large, and that of the first is larger
      refine absurd ?_ (not_le_of_large small.neg positive right above)
      rw [value_neg]
      exact le_neg.mpr le
    · cases a with
      | infinity => exact left.elim
      | notANumber => exact left.elim
      | zero => rfl
      | finite sign => cases sign <;> rfl
  · cases s
    · cases b with
      | infinity => exact right.elim
      | notANumber => exact right.elim
      | zero => rfl
      | finite sign => cases sign <;> rfl
    · exact absurd le (not_le_of_large fine some left large)
  · cases s <;> cases t
    · rfl
    · rfl
    · exact absurd le ((signed_negative (size_pos positive)).trans (signed_pos (size_pos some))).not_ge
    · rfl

/-- Storing does not lift a number over another. -/
theorem le_stored_iff (proper : Proper format a) (fitted : Fitted format b) :
    a.le (stored format b) = true ↔ value a ≤ value b := by
  refine ⟨fun le => ?_, fun le => ?_⟩
  · rcases stored_cases fitted with ⟨-, same⟩ | ⟨t, n, f, positive, rfl, large, same⟩
    · rw [same] at le
      exact (le_iff_value_le proper.fitted fitted).mp le
    · rw [same] at le
      cases t
      · cases a with
        | infinity => exact proper.elim
        | notANumber => exact proper.elim
        | zero => cases le
        | finite sign => cases sign <;> cases le
      · exact (not_le.mp (not_le_of_large proper positive fitted large)).le
  · have kept := stored_le_stored proper.fitted fitted le
    rwa [proper.stored] at kept

/-- What is larger than a number of the format is larger than it when it is stored. -/
theorem lt_stored (proper : Proper format a) (fitted : Fitted format b) (less : value a < value b) :
    a.lt (stored format b) = true := by
  rcases stored_cases fitted with ⟨-, same⟩ | ⟨t, n, f, positive, rfl, large, same⟩
  · rw [same]
    exact (lt_iff_value_lt proper.fitted fitted).mpr less
  · rw [same]
    cases t
    · refine absurd ?_ (not_le_of_large proper.neg positive fitted large)
      rw [value_neg]
      exact le_neg.mpr less.le
    · cases a with
      | infinity => exact proper.elim
      | notANumber => exact proper.elim
      | zero => rfl
      | finite sign => cases sign <;> rfl

end Arcade.Number
