import Arcade.Proofs.Rounding

/-! Sums and products in a binary format. Their result is a number of the format to which the exact one is
nearest, so that no number of the format is passed and the order is kept. -/

namespace Arcade.Number

open Float.Model (Format UnpackedFloat totalExponent)
open Float.Model.UnpackedFloat

variable {format : Format} {m n : Nat} {e f : Int} {x y : ℚ} {a b result : UnpackedFloat}

/-! ### Fractions -/

/-- A size with a sign. -/
def signed (sign : Sign) (x : ℚ) : ℚ :=
  match sign with
  | .negative => -x
  | .positive => x

/-- The fraction that a number is; infinities count as zero. -/
def value : UnpackedFloat → ℚ
  | .finite sign mantissa exponent _ => signed sign (size mantissa exponent)
  | _ => 0

/-- What a format would hold if exponents had no end: zero, and what has as many bits as it asks for. -/
def Fitted (format : Format) : UnpackedFloat → Prop
  | .zero _ => True
  | .finite _ mantissa exponent _ => Canonical format mantissa exponent
  | .infinity _ | .notANumber => False

theorem value_zero (sign : Sign) : value (.zero sign) = 0 := rfl

theorem signed_neg (sign : Sign) (x : ℚ) : signed (-sign) x = -signed sign x := by
  cases sign
  · exact (neg_neg x).symm
  · rfl

theorem signed_mul (s t : Sign) (x y : ℚ) : signed (s * t) (x * y) = signed s x * signed t y := by
  cases s <;> cases t
  · exact (neg_mul_neg x y).symm
  · exact (neg_mul x y).symm
  · exact (mul_neg x y).symm
  · rfl

/-- Numbers with another sign are not nearer. -/
theorem abs_sub_le_signed (s t : Sign) (some : 0 ≤ x) (positive : 0 ≤ y) :
    |x - y| ≤ |signed s x - signed t y| := by
  have apart : |x - y| ≤ x + y := abs_le.mpr ⟨by linarith, by linarith⟩
  cases s <;> cases t
  · exact (abs_sub_comm x y).trans_le (le_of_eq (by congr 1; simp only [signed]; ring))
  · refine apart.trans (le_abs.mpr (.inr (le_of_eq ?_)))
    simp only [signed]
    ring
  · refine apart.trans (le_abs.mpr (.inl (le_of_eq ?_)))
    simp only [signed]
    ring
  · exact le_rfl

theorem abs_signed_sub (sign : Sign) (x y : ℚ) : |signed sign x - signed sign y| = |x - y| := by
  cases sign
  · rw [abs_sub_comm x y]
    congr 1
    simp only [signed]
    ring
  · rfl

/-- A number of a format that is not zero is told by the fraction that it is. -/
theorem Fitted.eq_of_value_eq (left : Fitted format a) (right : Fitted format b)
    (same : value a = value b) (some : value a ≠ 0) : a = b := by
  cases a with
  | infinity => exact left.elim
  | notANumber => exact left.elim
  | zero => exact absurd rfl some
  | finite s m e positive =>
    cases b with
    | infinity => exact right.elim
    | notANumber => exact right.elim
    | zero => exact absurd same some
    | finite t n f positive' =>
      have first := size_pos (e := e) positive
      have second := size_pos (e := f) positive'
      cases s <;> cases t <;> simp only [value, signed] at same
      · obtain ⟨rfl, rfl⟩ := left.eq_of_size_eq right positive (neg_injective same)
        rfl
      · linarith
      · linarith
      · obtain ⟨rfl, rfl⟩ := left.eq_of_size_eq right positive same
        rfl

/-! ### Nearest numbers -/

/-- A number of the format to which a fraction is nearest. -/
structure Rounds (format : Format) (x : ℚ) (result : UnpackedFloat) : Prop where
  fitted : Fitted format result
  nearest : ∀ {other}, Fitted format other → |x - value result| ≤ |x - value other|

theorem Fitted.rounds (fitted : Fitted format a) : Rounds format (value a) a where
  fitted := fitted
  nearest _ := by
    rw [sub_self, abs_zero]
    exact abs_nonneg _

/-- What is nearest to the larger fraction is not less. -/
theorem Rounds.mono (left : Rounds format x a) (right : Rounds format y b) (less : x < y) :
    value a ≤ value b := by
  by_contra more
  rw [not_le] at more
  -- each is as near as the other number, so the middle of both lies between the fractions
  have first := left.nearest right.fitted
  have second := right.nearest left.fitted
  rw [← sq_le_sq] at first second
  nlinarith

/-- No number of the format is passed from below. -/
theorem Rounds.le_value (rounds : Rounds format x result) (fitted : Fitted format a)
    (le : value a ≤ x) : value a ≤ value result := by
  by_contra less
  rw [not_le] at less
  have near := rounds.nearest fitted
  rw [abs_of_pos (by linarith), abs_of_nonneg (by linarith)] at near
  linarith

theorem Rounds.value_le (rounds : Rounds format x result) (fitted : Fitted format a)
    (le : x ≤ value a) : value result ≤ value a := by
  by_contra more
  rw [not_le] at more
  have near := rounds.nearest fitted
  rw [abs_of_neg (by linarith), abs_of_nonpos (by linarith)] at near
  linarith

theorem Rounds.value_eq (rounds : Rounds format (value a) result) (fitted : Fitted format a) :
    value result = value a :=
  le_antisymm (rounds.value_le fitted le_rfl) (rounds.le_value fitted le_rfl)

/-- Rounding at most doubles. -/
theorem Rounds.le_double (rounds : Rounds format x result) (forward : 0 ≤ x) :
    value result ≤ 2 * x := by
  have near : |x - value result| ≤ |x - value (.zero .positive)| := rounds.nearest trivial
  rw [value_zero, sub_zero, abs_of_nonneg forward] at near
  linarith [(abs_le.mp near).1]

theorem rounds_roundWithAccuracy (sign : Sign) (positive : 0 < n)
    (short : f ≤ format.targetExponent (totalExponent n f)) :
    Rounds format (signed sign (size n f)) (roundWithAccuracy format sign n f .exact) := by
  obtain ⟨m, e, canonical, near, rounded⟩ := exists_roundWithAccuracy sign positive short
  have exact : value (roundWithAccuracy format sign n f .exact) = signed sign (size m e) := by
    rw [rounded]
    split
    · rename_i zero
      rw [zero, size_zero]
      cases sign
      · exact neg_zero.symm
      · rfl
    · rfl
  refine ⟨?_, fun {other} fitted => ?_⟩
  · rw [rounded]
    split
    · trivial
    · exact canonical
  · rw [exact, abs_signed_sub]
    cases other with
    | infinity => exact fitted.elim
    | notANumber => exact fitted.elim
    | zero t =>
      refine (near canonical_zero).trans ?_
      rw [size_zero]
      exact abs_sub_le_signed sign .positive size_nonneg le_rfl
    | finite t k g some =>
      exact (near fitted).trans (abs_sub_le_signed sign t size_nonneg size_nonneg)

theorem rounds_round (sign : Sign) (positive : 0 < n) :
    Rounds format (signed sign (size n f)) (UnpackedFloat.round format sign n f) := by
  rcases le_total f (format.targetExponent (totalExponent n f)) with short | long
  · have none : (f - format.targetExponent (totalExponent n f)).toNat = 0 := by omega
    simp only [UnpackedFloat.round, decreaseExponent, none, Nat.shiftLeft_zero, Int.natCast_zero,
      Int.sub_zero]
    exact rounds_roundWithAccuracy sign positive short
  · -- there is room for all bits
    obtain ⟨amount, target⟩ : ∃ amount : Nat,
        format.targetExponent (totalExponent n f) = f - amount :=
      ⟨(f - format.targetExponent (totalExponent n f)).toNat, by omega⟩
    obtain ⟨filled, rounded, canonical⟩ := round_of_le sign positive target
    rw [rounded, ← size_shiftLeft n amount f]
    exact Fitted.rounds (a := .finite sign _ _ filled) canonical

theorem rounds_normalize (total : Int) (zero : Sign) :
    Rounds format (total * 2 ^ f) (UnpackedFloat.normalize format total f zero) := by
  unfold UnpackedFloat.normalize
  rcases lt_trichotomy total 0 with less | rfl | more
  · rw [Int.compare_eq_lt.mpr less]
    have same : (total * 2 ^ f : ℚ) = signed .negative (size (-total).toNat f) := by
      have natural : ((-total).toNat : ℚ) = -total := by
        exact_mod_cast Int.toNat_of_nonneg (by omega : 0 ≤ -total)
      simp only [signed, size, natural]
      ring
    rw [same]
    exact rounds_round .negative (by omega)
  · rw [Int.cast_zero, zero_mul]
    exact Fitted.rounds (a := .zero zero) trivial
  · rw [Int.compare_eq_gt.mpr more]
    have same : (total * 2 ^ f : ℚ) = signed .positive (size total.toNat f) := by
      have natural : (total.toNat : ℚ) = total := by
        exact_mod_cast Int.toNat_of_nonneg more.le
      simp only [signed, size, natural]
    rw [same]
    exact rounds_round .positive (by omega)

/-! ### Sums, differences, products -/

/-- Writing a number with a lower exponent. -/
theorem value_decreaseExponent (sign : Sign) (m : Nat) (le : f ≤ e) :
    (sign.apply (decreaseExponent m e f).1 : ℚ) * 2 ^ f = signed sign (size m e) := by
  obtain ⟨amount, rfl⟩ : ∃ amount : Nat, f = e - amount := ⟨(e - f).toNat, by omega⟩
  have shift : (e - (e - amount)).toNat = amount := by omega
  have same := size_shiftLeft m amount e
  simp only [size] at same
  simp only [decreaseExponent, shift, size]
  cases sign
  · simp only [Sign.apply, Int.cast_neg, Int.cast_natCast, neg_mul, same, signed]
  · simp only [Sign.apply, Int.cast_natCast, same, signed]

theorem rounds_add (left : Fitted format a) (right : Fitted format b) :
    Rounds format (value a + value b) (add format a b) := by
  cases a with
  | infinity => exact left.elim
  | notANumber => exact left.elim
  | zero s =>
    rw [value_zero, zero_add]
    cases b with
    | infinity => exact right.elim
    | notANumber => exact right.elim
    | zero t =>
      have zero : ∃ sign, add format (.zero s) (.zero t) = .zero sign := by
        simp only [add]
        split <;> exact ⟨_, rfl⟩
      obtain ⟨sign, zero⟩ := zero
      rw [zero]
      exact Fitted.rounds (a := .zero sign) trivial
    | finite t n f positive => exact right.rounds
  | finite s m e some =>
    cases b with
    | infinity => exact right.elim
    | notANumber => exact right.elim
    | zero t =>
      rw [value_zero, add_zero]
      exact left.rounds
    | finite t n f positive =>
      have rounds : Rounds format _ _ := rounds_normalize (f := min e f)
        (s.apply (decreaseExponent m e (min e f)).1 + t.apply (decreaseExponent n f (min e f)).1)
        .positive
      rw [Int.cast_add, add_mul, value_decreaseExponent s m (min_le_left e f),
        value_decreaseExponent t n (min_le_right e f)] at rounds
      exact rounds

theorem value_neg (a : UnpackedFloat) : value a.neg = -value a := by
  cases a with
  | infinity => exact neg_zero.symm
  | notANumber => exact neg_zero.symm
  | zero => exact neg_zero.symm
  | finite s m e some => exact signed_neg s _

theorem Fitted.neg (fitted : Fitted format a) : Fitted format a.neg := by
  cases a with
  | infinity => exact fitted
  | notANumber => exact fitted
  | zero => exact fitted
  | finite s m e some => exact fitted

theorem apply_neg (sign : Sign) (total : Int) : (-sign).apply total = -sign.apply total := by
  cases sign
  · exact (neg_neg total).symm
  · rfl

/-- Subtracting is adding the opposite. -/
theorem sub_eq_add_opposite (left : Fitted format a) (right : Fitted format b) :
    sub format a b = add format a b.neg := by
  cases a with
  | infinity => exact left.elim
  | notANumber => exact left.elim
  | zero s =>
    cases b with
    | infinity => exact right.elim
    | notANumber => exact right.elim
    | zero t => rfl
    | finite t n f positive => rfl
  | finite s m e some =>
    cases b with
    | infinity => exact right.elim
    | notANumber => exact right.elim
    | zero t => rfl
    | finite t n f positive =>
      simp only [sub, add, UnpackedFloat.neg, apply_neg]
      rfl

theorem rounds_sub (left : Fitted format a) (right : Fitted format b) :
    Rounds format (value a - value b) (sub format a b) := by
  rw [sub_eq_add_opposite left right, sub_eq_add_neg, ← value_neg]
  exact rounds_add left right.neg

/-- A product has at least as many bits as its format asks for. -/
theorem Canonical.add_le (left : Canonical format m e) (right : Canonical format n f)
    (some : 0 < m) (positive : 0 < n) :
    e + f ≤ format.targetExponent (totalExponent (m * n) (e + f)) := by
  have least : m.log2 + n.log2 ≤ (m * n).log2 := by
    rw [Nat.le_log2 (Nat.mul_pos some positive).ne', Nat.pow_add]
    exact Nat.mul_le_mul (Nat.log2_self_le some.ne') (Nat.log2_self_le positive.ne')
  have power := Nat.two_pow_pos (format.exponentBits - 1)
  have bottom : format.minExponent ≤ 0 := by
    simp only [Format.minExponent, Format.mantissaBits]
    have := format.hm
    have : (1 : Int) ≤ 2 ^ (format.exponentBits - 1) := by exact_mod_cast power
    omega
  rw [canonical_iff] at left right
  rw [targetExponent_format]
  omega

theorem rounds_mul (left : Fitted format a) (right : Fitted format b) :
    Rounds format (value a * value b) (mul format a b) := by
  cases a with
  | infinity => exact left.elim
  | notANumber => exact left.elim
  | zero s =>
    rw [value_zero, zero_mul]
    cases b with
    | infinity => exact right.elim
    | notANumber => exact right.elim
    | zero t => exact Fitted.rounds (a := .zero (s * t)) trivial
    | finite t n f positive => exact Fitted.rounds (a := .zero (s * t)) trivial
  | finite s m e some =>
    cases b with
    | infinity => exact right.elim
    | notANumber => exact right.elim
    | zero t =>
      rw [value_zero, mul_zero]
      exact Fitted.rounds (a := .zero (s * t)) trivial
    | finite t n f positive =>
      have product : size m e * size n f = size (m * n) (e + f) := by
        rw [size, size, size, zpow_add₀ (by norm_num)]
        push_cast
        ring
      have rounds := rounds_roundWithAccuracy (s * t) (Nat.mul_pos some positive)
        (Canonical.add_le left right some positive)
      rw [← product, signed_mul] at rounds
      exact rounds

/-! ### Rounding keeps the order -/

/-- Adding keeps the order: what is added to the larger number is not less. -/
theorem add_mono {c : UnpackedFloat} (left : Fitted format a) (right : Fitted format b)
    (other : Fitted format c) (le : value a ≤ value b) :
    value (add format a c) ≤ value (add format b c) := by
  have first := rounds_add left other
  have second := rounds_add right other
  rcases le.lt_or_eq with less | same
  · exact first.mono second (by linarith)
  · -- equal fractions are equal numbers, but for the signs of zeros
    by_cases zero : value a = 0
    · rw [zero, zero_add] at first
      rw [← same, zero, zero_add] at second
      rw [first.value_eq other, second.value_eq other]
    · rw [left.eq_of_value_eq right same zero]

/-- Multiplying with what is not negative keeps the order. -/
theorem mul_mono {c : UnpackedFloat} (left : Fitted format a) (right : Fitted format b)
    (other : Fitted format c) (forward : 0 ≤ value c) (le : value a ≤ value b) :
    value (mul format a c) ≤ value (mul format b c) := by
  have first := rounds_mul left other
  have second := rounds_mul right other
  rcases (mul_le_mul_of_nonneg_right le forward).lt_or_eq with less | same
  · exact first.mono second less
  · by_cases zero : value a * value c = 0
    · have nothing : Fitted format (.zero .positive) := trivial
      rw [zero] at first same
      rw [← same] at second
      exact (first.value_le nothing le_rfl).trans (second.le_value nothing le_rfl)
    · have some : value c ≠ 0 := right_ne_zero_of_mul zero
      rw [left.eq_of_value_eq right (mul_right_cancel₀ some same) (left_ne_zero_of_mul zero)]

theorem mul_swap (left : Fitted format a) (right : Fitted format b) :
    mul format a b = mul format b a := by
  cases a with
  | infinity => exact left.elim
  | notANumber => exact left.elim
  | zero s =>
    cases b with
    | infinity => exact right.elim
    | notANumber => exact right.elim
    | zero t => cases s <;> cases t <;> rfl
    | finite t n f positive => cases s <;> cases t <;> rfl
  | finite s m e some =>
    cases b with
    | infinity => exact right.elim
    | notANumber => exact right.elim
    | zero t => cases s <;> cases t <;> rfl
    | finite t n f positive =>
      have signs : s * t = t * s := by cases s <;> cases t <;> rfl
      simp only [mul, signs, Nat.mul_comm m n, Int.add_comm e f]

end Arcade.Number
