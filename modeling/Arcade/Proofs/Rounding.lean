import Arcade.Proofs.Packing

/-! Rounding in a binary format. An operation gives a number of the format to which the exact result is
nearest; so what is a number of the format is kept, and of two results the larger one is not rounded to
less. -/

namespace Arcade.Number

open Float.Model (Format UnpackedFloat totalExponent)
open Float.Model.UnpackedFloat

variable {format : Format} {m n k : Nat} {e f g : Int}

/-! ### Sizes -/

/-- How large a number without its sign is. -/
def size (mantissa : Nat) (exponent : Int) : ℚ := mantissa * 2 ^ exponent

@[simp] theorem size_zero (e : Int) : size 0 e = 0 := by
  simp [size]

theorem size_nonneg : 0 ≤ size m e := by
  unfold size
  positivity

theorem size_pos (positive : 0 < m) : 0 < size m e := by
  have := positive
  unfold size
  positivity

theorem size_mono (le : m ≤ n) (e : Int) : size m e ≤ size n e := by
  unfold size
  gcongr

theorem two_zpow_le {e f : Int} (le : e ≤ f) : (2 : ℚ) ^ e ≤ 2 ^ f :=
  zpow_le_zpow_right₀ (by norm_num) le

/-- A number lies between two powers of two. -/
theorem le_size (positive : 0 < m) : (2 : ℚ) ^ (m.log2 + e) ≤ size m e := by
  rw [size, zpow_add₀ (by norm_num), zpow_natCast]
  have least : (2 : ℚ) ^ m.log2 ≤ m := by exact_mod_cast Nat.log2_self_le positive.ne'
  gcongr

theorem size_lt_of_lt (less : m < 2 ^ k) (e : Int) : size m e < (2 : ℚ) ^ (k + e) := by
  rw [size, zpow_add₀ (by norm_num), zpow_natCast]
  have most : (m : ℚ) < 2 ^ k := by exact_mod_cast less
  gcongr

theorem size_lt (m : Nat) (e : Int) : size m e < (2 : ℚ) ^ (m.log2 + 1 + e) := by
  exact_mod_cast size_lt_of_lt (Nat.lt_log2_self (n := m)) e

/-- The larger number has its first bit at least as high. -/
theorem log2_le_of_size_le (positive : 0 < m) (le : size m e ≤ size n f) :
    m.log2 + e ≤ n.log2 + f := by
  have less : (2 : ℚ) ^ (m.log2 + e) < 2 ^ (n.log2 + 1 + f) :=
    (le_size positive).trans_lt (le.trans_lt (size_lt n f))
  have := (zpow_lt_zpow_iff_right₀ (by norm_num : (1 : ℚ) < 2)).mp less
  omega

/-- A number may be written with more bits. -/
theorem size_mul_pow (m amount : Nat) (e : Int) : size (m * 2 ^ amount) e = size m (e + amount) := by
  rw [size, size, zpow_add₀ (by norm_num), zpow_natCast]
  push_cast
  ring

theorem size_shiftLeft (m amount : Nat) (e : Int) : size (m <<< amount) (e - amount) = size m e := by
  rw [Nat.shiftLeft_eq, size_mul_pow, sub_add_cancel]

/-! ### The order of numbers of a format -/

/-- How numbers with as many bits as they need are compared. -/
def Below (mantissa : Nat) (exponent : Int) (mantissa' : Nat) (exponent' : Int) : Prop :=
  exponent < exponent' ∨ exponent = exponent' ∧ mantissa ≤ mantissa'

/-- The order of numbers is the order of their exponents, and then of their mantissas. -/
theorem Canonical.below (canonical : Canonical format m e) (other : Canonical format n f)
    (positive : 0 < m) (le : size m e ≤ size n f) : Below m e n f := by
  have high := log2_le_of_size_le positive le
  rw [canonical_iff] at canonical other
  have order : e ≤ f := by omega
  rcases lt_or_eq_of_le order with less | rfl
  · exact .inl less
  · refine .inr ⟨rfl, ?_⟩
    have : (m : ℚ) ≤ n := le_of_mul_le_mul_right le (by positivity)
    exact_mod_cast this

theorem Canonical.size_le (canonical : Canonical format m e) (other : Canonical format n f)
    (below : Below m e n f) : size m e ≤ size n f := by
  rcases below with less | ⟨rfl, le⟩
  · have low := canonical.low
    have bits := format.hm
    rw [canonical_iff] at other
    have some : 0 < n := by
      rcases Nat.eq_zero_or_pos n with zero | positive
      · rw [zero, Nat.log2_zero] at other
        omega
      · exact positive
    exact (size_lt_of_lt canonical.lt e).le.trans ((two_zpow_le (by omega)).trans (le_size some))
  · exact size_mono le e

/-- A number of a format is written in one way. -/
theorem Canonical.eq_of_size_eq (canonical : Canonical format m e) (other : Canonical format n f)
    (positive : 0 < m) (same : size m e = size n f) : m = n ∧ e = f := by
  have some : 0 < n := by
    rcases Nat.eq_zero_or_pos n with zero | positive'
    · rw [zero, size_zero] at same
      exact absurd same (size_pos positive).ne'
    · exact positive'
  have forth := canonical.below other positive same.le
  have back := other.below canonical some same.ge
  unfold Below at forth back
  omega

/-! ### Rounding what fits -/

theorem log2_shiftLeft {mantissa : Nat} (positive : 0 < mantissa) (amount : Nat) :
    (mantissa <<< amount).log2 = mantissa.log2 + amount := by
  have some : mantissa ≠ 0 := Nat.ne_of_gt positive
  rw [Nat.shiftLeft_eq]
  refine log2_of_bits ?_ ?_
  · rw [Nat.pow_add]
    exact Nat.mul_le_mul_right _ (Nat.log2_self_le some)
  · rw [Nat.add_right_comm, Nat.pow_add]
    exact Nat.mul_lt_mul_of_pos_right Nat.lt_log2_self (Nat.two_pow_pos amount)

theorem totalExponent_shiftLeft {mantissa : Nat} (positive : 0 < mantissa) (amount : Nat)
    (exponent : Int) :
    totalExponent (mantissa <<< amount) (exponent - amount) = totalExponent mantissa exponent := by
  rw [totalExponent, totalExponent, log2_shiftLeft positive]
  omega

/-- Shifting back what was shifted loses no bit. -/
theorem shiftRight_shiftLeft (mantissa amount : Nat) :
    ExtendedMantissa.ofMantissaAndAccuracy (mantissa <<< amount) .exact >>> amount =
      ⟨mantissa, false, false⟩ := by
  induction amount generalizing mantissa with
  | zero => rfl
  | succ amount ih =>
    change (ExtendedMantissa.ofMantissaAndAccuracy (mantissa <<< (amount + 1)) .exact >>>
      amount).shiftRightOne = _
    rw [Nat.shiftLeft_succ_inside, ih]
    simp [ExtendedMantissa.shiftRightOne]

/-- Of a number of the format nothing is cut off, also when it comes with more bits than needed. -/
theorem shiftToTargetExponent_shiftLeft (positive : 0 < m) (canonical : Canonical format m e)
    (amount : Nat) :
    shiftToTargetExponent format (m <<< amount) (e - amount) .exact = (⟨m, false, false⟩, e) := by
  have back : (e - (e - amount)).toNat = amount := by omega
  rw [shiftToTargetExponent, totalExponent_shiftLeft positive, canonical]
  simp only [shiftToExponent, back, shiftRight_shiftLeft]
  rw [Int.sub_add_cancel]

theorem Canonical.shiftToTargetExponent (canonical : Canonical format m e) :
    shiftToTargetExponent format m e .exact = (⟨m, false, false⟩, e) := by
  rw [UnpackedFloat.shiftToTargetExponent, canonical]
  simp only [shiftToExponent, Int.sub_self]
  exact Prod.ext rfl (Int.add_zero e)

theorem roundWithAccuracy_shiftLeft (sign : Sign) (positive : 0 < m)
    (canonical : Canonical format m e) (amount : Nat) :
    roundWithAccuracy format sign (m <<< amount) (e - amount) .exact = .finite sign m e positive := by
  have same : (⟨m, false, false⟩ : ExtendedMantissa).roundedMantissa = m := rfl
  simp only [roundWithAccuracy, shiftToTargetExponent_shiftLeft positive canonical, same,
    canonical.shiftToTargetExponent]
  rw [dif_neg (Nat.ne_of_gt positive)]

/-- A number of the format is not changed by rounding. -/
theorem round_shiftLeft (sign : Sign) (positive : 0 < m) (canonical : Canonical format m e)
    (amount : Nat) :
    UnpackedFloat.round format sign (m <<< amount) (e - amount) = .finite sign m e positive := by
  have none : (e - amount - e).toNat = 0 := by omega
  have target : format.targetExponent (totalExponent m e) = e := canonical
  simp only [UnpackedFloat.round, totalExponent_shiftLeft positive, target, decreaseExponent, none,
    Nat.shiftLeft_zero]
  rw [Int.natCast_zero, Int.sub_zero]
  exact roundWithAccuracy_shiftLeft sign positive canonical amount

/-- A number with fewer bits than the format has is filled up. -/
theorem round_of_le (sign : Sign) (positive : 0 < m) {amount : Nat}
    (target : format.targetExponent (totalExponent m e) = e - amount) :
    ∃ filled, UnpackedFloat.round format sign m e =
      .finite sign (m <<< amount) (e - amount) filled ∧ Canonical format (m <<< amount) (e - amount) := by
  have filled : 0 < m <<< amount := by
    rw [Nat.shiftLeft_eq]
    exact Nat.mul_pos positive (Nat.two_pow_pos amount)
  have canonical : Canonical format (m <<< amount) (e - amount) := by
    rw [Canonical, totalExponent_shiftLeft positive, target]
  have back : (e - (e - amount)).toNat = amount := by omega
  refine ⟨filled, ?_, canonical⟩
  simp only [UnpackedFloat.round, target, decreaseExponent, back]
  have rounded := roundWithAccuracy_shiftLeft sign filled canonical 0
  rwa [Nat.shiftLeft_zero, Int.natCast_zero, Int.sub_zero] at rounded

/-! ### Cutting off bits -/

/-- What is left when bits are cut off tells how the rest compares to half of the last bit. -/
theorem shiftRight_eq (n amount : Nat) :
    ExtendedMantissa.ofMantissaAndAccuracy n .exact >>> amount =
      ⟨n / 2 ^ amount, decide (2 ^ amount ≤ 2 * (n % 2 ^ amount)),
        decide (n % 2 ^ amount ≠ 0 ∧ 2 * (n % 2 ^ amount) ≠ 2 ^ amount)⟩ := by
  induction amount with
  | zero => simp [ExtendedMantissa.ofMantissaAndAccuracy, HShiftRight.hShiftRight, Nat.repeat, Nat.mod_one]
  | succ amount ih =>
    change (ExtendedMantissa.ofMantissaAndAccuracy n .exact >>> amount).shiftRightOne = _
    rw [ih]
    have rest : n % 2 ^ (amount + 1) = n % 2 ^ amount + 2 ^ amount * (n / 2 ^ amount % 2) :=
      Nat.mod_pow_succ
    have below : n % 2 ^ amount < 2 ^ amount := Nat.mod_lt _ (Nat.two_pow_pos amount)
    have bit : n / 2 ^ amount % 2 = 0 ∨ n / 2 ^ amount % 2 = 1 := by omega
    simp only [ExtendedMantissa.shiftRightOne, Nat.div_div_eq_div_mul, ← Nat.pow_succ, rest,
      ExtendedMantissa.mk.injEq, true_and]
    rw [Nat.pow_succ]
    rcases bit with zero | one
    · rw [zero]
      constructor
      · simp
        omega
      · rw [Bool.eq_iff_iff]
        simp
        omega
    · rw [one]
      constructor
      · simp
        omega
      · rw [Bool.eq_iff_iff]
        simp
        omega

/-- Rounding goes to the nearer side. -/
theorem roundedMantissa_shiftRight (n amount : Nat) :
    ((ExtendedMantissa.ofMantissaAndAccuracy n .exact >>> amount).roundedMantissa = n / 2 ^ amount ∧
      2 * (n % 2 ^ amount) ≤ 2 ^ amount) ∨
    ((ExtendedMantissa.ofMantissaAndAccuracy n .exact >>> amount).roundedMantissa =
      n / 2 ^ amount + 1 ∧ 2 ^ amount ≤ 2 * (n % 2 ^ amount)) := by
  simp only [shiftRight_eq, ExtendedMantissa.roundedMantissa]
  generalize n % 2 ^ amount = rest
  have power := Nat.two_pow_pos amount
  by_cases half : 2 ^ amount ≤ 2 * rest
  · rw [decide_eq_true half]
    by_cases tie : 2 * rest = 2 ^ amount
    · rw [decide_eq_false (by omega : ¬ (rest ≠ 0 ∧ 2 * rest ≠ 2 ^ amount))]
      change (n / 2 ^ amount + n / 2 ^ amount % 2 = _ ∧ _) ∨ (n / 2 ^ amount + n / 2 ^ amount % 2 = _ ∧ _)
      omega
    · rw [decide_eq_true (by omega : rest ≠ 0 ∧ 2 * rest ≠ 2 ^ amount)]
      exact .inr ⟨rfl, half⟩
  · rw [decide_eq_false half]
    by_cases none : rest = 0
    · rw [decide_eq_false (by omega : ¬ (rest ≠ 0 ∧ 2 * rest ≠ 2 ^ amount))]
      exact .inl ⟨rfl, by omega⟩
    · rw [decide_eq_true (by omega : rest ≠ 0 ∧ 2 * rest ≠ 2 ^ amount)]
      exact .inl ⟨rfl, by omega⟩

/-! ### Rounding -/

/-- What is left when a number is cut to its format has at most as many bits as the format, and no fewer
unless it is among the smallest. -/
theorem bits_of_target {amount : Nat} (positive : 0 < n)
    (target : format.targetExponent (totalExponent n f) = f + amount) :
    format.minExponent ≤ f + amount ∧ n / 2 ^ amount < 2 ^ (format.mantissaBitsWithoutImplicit + 1) ∧
      (f + amount = format.minExponent ∨
        2 ^ format.mantissaBitsWithoutImplicit ≤ n / 2 ^ amount) := by
  rw [targetExponent_format] at target
  refine ⟨by omega, ?_, ?_⟩
  · rw [Nat.div_lt_iff_lt_mul (Nat.two_pow_pos amount), ← Nat.pow_add]
    exact (Nat.log2_lt positive.ne').mp (by omega)
  · rcases eq_or_ne (f + amount) format.minExponent with bottom | above
    · exact .inl bottom
    · right
      rw [Nat.le_div_iff_mul_le (Nat.two_pow_pos amount), ← Nat.pow_add]
      exact (Nat.le_log2 positive.ne').mp (by omega)

/-- No number of the format lies between what is left of a number and the next mantissa. -/
theorem Canonical.le_or_ge (canonical : Canonical format k g) {amount : Nat} (positive : 0 < n)
    (target : format.targetExponent (totalExponent n f) = f + amount) :
    size k g ≤ size (n / 2 ^ amount) (f + amount) ∨
      size (n / 2 ^ amount + 1) (f + amount) ≤ size k g := by
  rcases le_or_gt (f + amount) g with above | below
  · obtain ⟨more, rfl⟩ : ∃ more : Nat, g = f + amount + more := ⟨(g - (f + amount)).toNat, by omega⟩
    rw [← size_mul_pow]
    rcases Nat.lt_or_ge (n / 2 ^ amount) (k * 2 ^ more) with less | more
    · exact .inr (size_mono less _)
    · exact .inl (size_mono more _)
  · have low := canonical.low
    have many := (bits_of_target positive target).2.2.resolve_left (by omega)
    left
    calc size k g ≤ (2 : ℚ) ^ (((format.mantissaBitsWithoutImplicit + 1 : Nat) : Int) + g) :=
          (size_lt_of_lt canonical.lt g).le
      _ ≤ 2 ^ ((format.mantissaBitsWithoutImplicit : Int) + (f + amount)) :=
          two_zpow_le (by omega)
      _ = size (2 ^ format.mantissaBitsWithoutImplicit) (f + amount) := by
          rw [size, zpow_add₀ (by norm_num), zpow_natCast]
          push_cast
          rfl
      _ ≤ size (n / 2 ^ amount) (f + amount) := size_mono many _

/-- A mantissa that is one bit too long after rounding is halved, and loses nothing. -/
theorem shift_rounded {rounded : Nat} (low : format.minExponent ≤ e)
    (most : rounded ≤ 2 ^ (format.mantissaBitsWithoutImplicit + 1))
    (least : e = format.minExponent ∨ 2 ^ format.mantissaBitsWithoutImplicit ≤ rounded) :
    ∃ m f, shiftToTargetExponent format rounded e .exact = (⟨m, false, false⟩, f) ∧
      Canonical format m f ∧ size m f = size rounded e := by
  rcases lt_or_eq_of_le most with less | rfl
  · have canonical : Canonical format rounded e := by
      rw [canonical_iff]
      rcases Nat.eq_zero_or_pos rounded with rfl | positive
      · have power := Nat.two_pow_pos format.mantissaBitsWithoutImplicit
        rw [Nat.log2_zero]
        omega
      · have short := Single.log2_lt_of_lt (Nat.succ_pos _) less
        rcases least with bottom | long
        · omega
        · have := (Nat.le_log2 positive.ne').mpr long
          omega
    exact ⟨_, _, canonical.shiftToTargetExponent, canonical, rfl⟩
  · have canonical : Canonical format (2 ^ format.mantissaBitsWithoutImplicit) (e + 1) := by
      rw [canonical_iff, Nat.log2_two_pow]
      omega
    have double : 2 ^ (format.mantissaBitsWithoutImplicit + 1) =
        2 ^ format.mantissaBitsWithoutImplicit <<< 1 := by
      rw [Nat.shiftLeft_eq, Nat.pow_succ, Nat.pow_one]
    have place : e = e + 1 - (1 : Nat) := by omega
    have shifted := shiftToTargetExponent_shiftLeft (Nat.two_pow_pos _) canonical 1
    rw [← double, ← place] at shifted
    refine ⟨_, _, shifted, canonical, ?_⟩
    rw [Nat.pow_succ, ← Nat.pow_one 2, ← Nat.pow_mul, Nat.one_mul, size_mul_pow]
    rfl

/-- Of two bounds the nearer one is the nearest number if there is none between them. -/
theorem nearest_of_gap {a b x v w : ℚ} (low : a ≤ x) (high : x ≤ b) (gap : w ≤ a ∨ b ≤ w)
    (nearer : v = a ∧ x - a ≤ b - x ∨ v = b ∧ b - x ≤ x - a) : |x - v| ≤ |x - w| := by
  rcases nearer with ⟨rfl, less⟩ | ⟨rfl, less⟩
  · rw [abs_of_nonneg (sub_nonneg.mpr low), le_abs]
    rcases gap with below | above
    · exact .inl (by linarith)
    · exact .inr (by linarith)
  · rw [abs_of_nonpos (sub_nonpos.mpr high), le_abs]
    rcases gap with below | above
    · exact .inl (by linarith)
    · exact .inr (by linarith)

/-- What is cut off, in units of the last place. -/
theorem size_sub_div (n amount : Nat) (f : Int) :
    size n f - size (n / 2 ^ amount) (f + amount) = (n % 2 ^ amount : Nat) * 2 ^ f := by
  have whole : (n : ℚ) = (n / 2 ^ amount : Nat) * 2 ^ amount + (n % 2 ^ amount : Nat) := by
    exact_mod_cast (Nat.div_add_mod' n (2 ^ amount)).symm
  rw [← size_mul_pow, size, size, whole]
  push_cast
  ring

theorem size_div_sub (n amount : Nat) (f : Int) :
    size (n / 2 ^ amount + 1) (f + amount) - size n f =
      (2 ^ amount - n % 2 ^ amount : Nat) * 2 ^ f := by
  have next : size (n / 2 ^ amount + 1) (f + amount) =
      size (n / 2 ^ amount) (f + amount) + 2 ^ amount * 2 ^ f := by
    rw [← size_mul_pow, ← size_mul_pow, size, size]
    push_cast
    ring
  have cut := size_sub_div n amount f
  rw [next, Nat.cast_sub (Nat.mod_lt n (Nat.two_pow_pos amount)).le]
  push_cast at cut ⊢
  linarith

/-- A positive number is rounded to a nearest number of the format. -/
theorem exists_roundWithAccuracy (sign : Sign) (positive : 0 < n)
    (short : f ≤ format.targetExponent (totalExponent n f)) :
    ∃ m e, Canonical format m e ∧
      (∀ {k g}, Canonical format k g → |size n f - size m e| ≤ |size n f - size k g|) ∧
      roundWithAccuracy format sign n f .exact =
        if some : m = 0 then .zero sign else .finite sign m e (Nat.pos_of_ne_zero some) := by
  obtain ⟨amount, target⟩ : ∃ amount : Nat,
      format.targetExponent (totalExponent n f) = f + amount :=
    ⟨(format.targetExponent (totalExponent n f) - f).toNat, by omega⟩
  have first : shiftToTargetExponent format n f .exact =
      (ExtendedMantissa.ofMantissaAndAccuracy n .exact >>> amount, f + amount) := by
    have shift : (f + amount - f).toNat = amount := by omega
    rw [shiftToTargetExponent, target]
    simp only [shiftToExponent, shift]
  obtain ⟨low, few, many⟩ := bits_of_target positive target
  have sides := roundedMantissa_shiftRight n amount
  generalize ExtendedMantissa.ofMantissaAndAccuracy n .exact >>> amount = cut at first sides
  obtain ⟨m, e, second, canonical, same⟩ : ∃ m e,
      shiftToTargetExponent format cut.roundedMantissa (f + amount) .exact =
        (⟨m, false, false⟩, e) ∧ Canonical format m e ∧ size m e = size cut.roundedMantissa (f + amount) :=
    shift_rounded low (by omega) (by omega)
  refine ⟨m, e, canonical, fun other => ?_, by simp only [roundWithAccuracy, first, second]⟩
  have unit : (0 : ℚ) ≤ 2 ^ f := by positivity
  -- no number lies between what is left and the next mantissa, and the nearer one of them is taken
  refine nearest_of_gap (a := size (n / 2 ^ amount) (f + amount))
    (b := size (n / 2 ^ amount + 1) (f + amount)) ?_ ?_ (other.le_or_ge positive target) ?_
  · rw [← sub_nonneg, size_sub_div]
    positivity
  · rw [← sub_nonneg, size_div_sub]
    positivity
  · rw [same, size_sub_div, size_div_sub]
    rcases sides with ⟨rounded, half⟩ | ⟨rounded, half⟩
    · refine .inl ⟨congrArg (size · _) rounded, mul_le_mul_of_nonneg_right ?_ unit⟩
      exact_mod_cast (by omega : n % 2 ^ amount ≤ 2 ^ amount - n % 2 ^ amount)
    · refine .inr ⟨congrArg (size · _) rounded, mul_le_mul_of_nonneg_right ?_ unit⟩
      exact_mod_cast (by omega : 2 ^ amount - n % 2 ^ amount ≤ n % 2 ^ amount)

end Arcade.Number
