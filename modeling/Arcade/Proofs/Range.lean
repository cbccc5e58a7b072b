import Arcade.Proofs.Storing
import Arcade.Random

/-! Random numbers stay in their range. A unit in single precision is stretched by the largest factor with
which the largest unit does not pass the end of the range; neither the product nor the sum is rounded past
what the largest unit becomes, so no number passes it. -/

namespace Arcade.Number

open Float.Model (Format UnpackedFloat totalExponent)
open Float.Model.UnpackedFloat

variable {format : Format} {m n : Nat} {e f : Int} {a b : UnpackedFloat}

/-! ### Signs -/

/-- A number whose sign is positive. -/
def Plus : UnpackedFloat → Prop
  | .zero sign | .infinity sign | .finite sign .. => sign = .positive
  | .notANumber => False

theorem plus_roundWithAccuracy (n : Nat) (f : Int) (accuracy : Accuracy) :
    Plus (roundWithAccuracy format .positive n f accuracy) := by
  simp only [roundWithAccuracy]
  split <;> rfl

theorem plus_sub (left : Fitted format a) (right : Fitted format b) (less : value b < value a) :
    Plus (sub format a b) := by
  cases a with
  | infinity => exact left.elim
  | notANumber => exact left.elim
  | zero s =>
    cases b with
    | infinity => exact right.elim
    | notANumber => exact right.elim
    | zero t => exact absurd less (lt_irrefl _)
    | finite t n f positive =>
      cases t
      · rfl
      · exact absurd less (signed_pos (size_pos positive)).not_gt
  | finite s m e some =>
    cases b with
    | infinity => exact right.elim
    | notANumber => exact right.elim
    | zero t =>
      cases s
      · exact absurd less (signed_negative (size_pos some)).not_gt
      · rfl
    | finite t n f positive =>
      have total : 0 < s.apply (decreaseExponent m e (min e f)).1 -
          t.apply (decreaseExponent n f (min e f)).1 := by
        have exact : 0 < ((s.apply (decreaseExponent m e (min e f)).1 -
            t.apply (decreaseExponent n f (min e f)).1 : Int) : ℚ) * 2 ^ min e f := by
          rw [Int.cast_sub, sub_mul, value_decreaseExponent s m (min_le_left e f),
            value_decreaseExponent t n (min_le_right e f)]
          exact sub_pos.mpr less
        exact_mod_cast pos_of_mul_pos_left exact (by positivity)
      simp only [sub, UnpackedFloat.normalize]
      rw [Int.compare_eq_gt.mpr total]
      exact plus_roundWithAccuracy _ _ _

theorem plus_div (plus : Plus a) {positive : 0 < n} :
    Plus (div format a (.finite .positive n f positive)) := by
  cases a with
  | notANumber => exact plus.elim
  | infinity s =>
    obtain rfl : s = .positive := plus
    rfl
  | zero s =>
    obtain rfl : s = .positive := plus
    rfl
  | finite s m e some =>
    obtain rfl : s = .positive := plus
    exact plus_roundWithAccuracy _ _ _

theorem plus_stored (fitted : Fitted format a) (plus : Plus a) : Plus (stored format a) := by
  rcases stored_cases fitted with ⟨-, same⟩ | ⟨s, m, e, some, rfl, -, same⟩
  · rwa [same]
  · rw [same]
    exact plus

theorem unpackSign_pack (plus : Plus a) : unpackSign (pack format a) = 0#1 := by
  cases a with
  | notANumber => exact plus.elim
  | infinity s =>
    obtain rfl : s = .positive := plus
    exact unpackSign_packComponents _ _ _
  | zero s =>
    obtain rfl : s = .positive := plus
    exact unpackSign_packComponents _ _ _
  | finite s m e some =>
    obtain rfl : s = .positive := plus
    simp only [pack]
    split
    · exact unpackSign_packComponents _ _ _
    · split <;> exact unpackSign_packComponents _ _ _

theorem toNat_unpackSign (bits : BitVec Format.binary32.numBits) :
    (unpackSign bits).toNat = bits.toNat / 2 ^ 31 % 2 := by
  simp [unpackSign, Nat.shiftRight_eq_div_pow]

theorem toNat_unpackExponent (bits : BitVec Format.binary32.numBits) :
    (@unpackExponent Format.binary32 bits).toNat = bits.toNat / 2 ^ 23 % 256 := by
  simp [unpackExponent, Nat.shiftRight_eq_div_pow]

/-- The singles that are finite and whose sign is positive come first. -/
theorem lt_of_plus {bits : BitVec Format.binary32.numBits} (sign : unpackSign bits = 0#1)
    (finite : (unpack Format.binary32 bits).isFinite = true) : bits.toNat < 0x7F800000 := by
  have bound : bits.toNat < 2 ^ 32 := bits.isLt
  have first := toNat_unpackSign bits
  rw [sign, BitVec.toNat_zero] at first
  have place := toNat_unpackExponent bits
  by_contra large
  have full : @unpackExponent Format.binary32 bits = -1#_ := by
    apply BitVec.eq_of_toNat_eq
    rw [place]
    change _ = 255
    omega
  simp only [unpack] at finite
  rw [if_pos full] at finite
  split at finite <;> cases finite

theorem plus_unpack {bits : BitVec Format.binary32.numBits} (small : bits.toNat < 0x7F800000) :
    Plus (unpack Format.binary32 bits) ∧ (unpack Format.binary32 bits).isFinite = true := by
  have sign : unpackSign bits = 0#1 := by
    apply BitVec.eq_of_toNat_eq
    rw [toNat_unpackSign, BitVec.toNat_zero]
    omega
  have fine : ¬ @unpackExponent Format.binary32 bits = -1#_ := by
    intro full
    have place := toNat_unpackExponent bits
    rw [full] at place
    change 255 = _ at place
    omega
  simp only [unpack, sign]
  rw [if_neg fine]
  split
  · split <;> exact ⟨rfl, rfl⟩
  · exact ⟨rfl, rfl⟩

/-! ### Stretching -/

/-- A factor that a unit is multiplied with does not become larger. -/
theorem product_of_unit {unit factor : UnpackedFloat} (small : Fitted format unit)
    (proper : Proper format factor) (start : 0 ≤ value unit) (most : value unit ≤ 1)
    (forward : 0 ≤ value factor) :
    Proper format (mul format unit factor) ∧ 0 ≤ value (mul format unit factor) ∧
      value (mul format unit factor) ≤ value factor := by
  have rounds := rounds_mul small proper.fitted
  have least : 0 ≤ value (mul format unit factor) :=
    rounds.le_value (a := .zero .positive) trivial (mul_nonneg start forward)
  have le : value (mul format unit factor) ≤ value factor :=
    rounds.value_le proper.fitted (mul_le_of_le_one_left forward most)
  exact ⟨proper.of_value_le rounds.fitted least le, least, le⟩

/-- What is stretched onto a range stays in it, if the largest unit does. -/
theorem le_stretched_le {low high unit top factor : UnpackedFloat} (first : Proper format low)
    (last : Proper format high) (ordered : value low ≤ value high) (small : Fitted format unit)
    (large : Fitted format top) (start : 0 ≤ value unit) (below : value unit ≤ value top)
    (most : value top ≤ 1) (proper : Proper format factor) (forward : 0 ≤ value factor)
    (fits : value factor = 0 ∨
      ¬ high.lt (stored format (add format (stored format (mul format factor top)) low)) = true) :
    low.le (stored format (add format (stored format (mul format unit factor)) low)) = true ∧
      (stored format (add format (stored format (mul format unit factor)) low)).le high = true := by
  obtain ⟨product, least, greatest⟩ := product_of_unit small proper start (below.trans most) forward
  rw [product.stored]
  have sum := rounds_add product.fitted first.fitted
  constructor
  · have bound : value low ≤ value (add format (mul format unit factor) low) :=
      sum.le_value first.fitted (by linarith)
    have kept := stored_le_stored first.fitted sum.fitted bound
    rwa [first.stored] at kept
  · have bound : value (add format (mul format unit factor) low) ≤ value high := by
      -- the largest unit decides, unless the factor is nothing
      rcases fits with zero | fits
      · exact sum.value_le last.fitted (by linarith)
      · obtain ⟨edge, -, -⟩ := product_of_unit large proper (start.trans below) most forward
        rw [mul_swap proper.fitted large, edge.stored] at fits
        refine (add_mono product.fitted edge.fitted first.fitted
          (mul_mono small large proper.fitted forward below)).trans (not_lt.mp fun less => fits ?_)
        exact lt_stored last (rounds_add edge.fitted first.fitted).fitted less
    have kept := stored_le_stored sum.fitted last.fitted bound
    rwa [last.stored] at kept

end Arcade.Number

namespace Arcade.Single

open Float.Model (Format UnpackedFloat)
open Number (Proper Plus value)

/-! ### The order of singles -/

variable {x y low high : Float32}

theorem le_iff : x ≤ y ↔ ∃ order, x.toModel.unpack.compare y.toModel.unpack = some order ∧
    order.isLE = true := by
  have whole : x ≤ y ↔ x.toModel.unpack.le y.toModel.unpack = true := decide_eq_true_iff
  rw [whole, UnpackedFloat.le, Option.any_eq_true]

theorem lt_iff : x < y ↔ x.toModel.unpack.compare y.toModel.unpack = some .lt := by
  have whole : x < y ↔ x.toModel.unpack.lt y.toModel.unpack = true := decide_eq_true_iff
  rw [whole, UnpackedFloat.lt, beq_iff_eq]

theorem beq_iff : (x == y) = true ↔ x.toModel.unpack.compare y.toModel.unpack = some .eq := by
  change x.toModel.unpack.beq y.toModel.unpack = true ↔ _
  rw [UnpackedFloat.beq, beq_iff_eq]

theorem le_of_lt (less : x < y) : x ≤ y :=
  le_iff.mpr ⟨.lt, lt_iff.mp less, rfl⟩

/-- What is compared with anything is a number. -/
theorem le_refl_of_le (le : x ≤ y) : x ≤ x ∧ y ≤ y := by
  obtain ⟨order, same, -⟩ := le_iff.mp le
  have forth : (x.toModel.unpack.compare y.toModel.unpack).isSome = true := by
    rw [same]
    rfl
  have back : (y.toModel.unpack.compare x.toModel.unpack).isSome = true := by
    rw [Number.compare_swap x.toModel.unpack, same]
    rfl
  exact ⟨le_iff.mpr ⟨.eq, Number.compare_self forth, rfl⟩, le_iff.mpr ⟨.eq, Number.compare_self back, rfl⟩⟩

theorem le_or_le (left : x.isFinite = true) (right : y.isFinite = true) : x ≤ y ∨ y ≤ x := by
  obtain ⟨order, same⟩ := Option.isSome_iff_exists.mp (Number.comparable_of_finite left right)
  cases order with
  | lt => exact .inl (le_iff.mpr ⟨.lt, same, rfl⟩)
  | eq => exact .inl (le_iff.mpr ⟨.eq, same, rfl⟩)
  | gt =>
    refine .inr (le_iff.mpr ⟨.lt, ?_, rfl⟩)
    rw [Number.compare_swap, same]
    rfl

theorem lt_of_le_of_ne (le : x ≤ y) (different : (x == y) = false) : x < y := by
  obtain ⟨order, same, before⟩ := le_iff.mp le
  cases order with
  | lt => exact lt_iff.mpr same
  | eq =>
    rw [beq_iff.mpr same] at different
    cases different
  | gt => cases before

theorem isFinite_iff : Scalar.isFinite x = true ↔ x.isFinite = true := by
  change (if x.isFinite = true then some (Number.widen x) else none).isSome = true ↔ _
  split <;> simp_all

theorem proper_of_isFinite (finite : x.isFinite = true) : Proper .binary32 x.toModel.unpack :=
  Number.proper_unpack (by decide) finite

/-! ### Factors -/

/-- Finite, and with a positive sign. -/
def Light (x : Float32) : Prop := x.isFinite = true ∧ Plus x.toModel.unpack

theorem Light.value_nonneg (light : Light x) : 0 ≤ value x.toModel.unpack := by
  have plus := light.2
  cases unpacked : x.toModel.unpack with
  | infinity s => exact le_rfl
  | notANumber => exact le_rfl
  | zero s => exact le_rfl
  | finite s m e some =>
    rw [unpacked] at plus
    obtain rfl : s = .positive := plus
    exact Number.size_nonneg

theorem light_ofBits {bits : Nat} (small : bits < 0x7F800000) :
    Light (Float32.ofBits bits.toUInt32) := by
  have same : (bits.toUInt32.toBitVec).toNat = bits := by
    change bits % 2 ^ 32 = bits
    omega
  obtain ⟨plus, finite⟩ := @Number.plus_unpack bits.toUInt32.toBitVec (by rwa [same])
  have stored : (Float32.ofBits bits.toUInt32).toModel.unpack =
      .unpack .binary32 bits.toUInt32.toBitVec := (Number.proper_unpack (by decide) finite).stored
  refine ⟨?_, ?_⟩
  · change (Float32.ofBits bits.toUInt32).toModel.unpack.isFinite = true
    rwa [stored]
  · rwa [stored]

theorem fit32_cases (low high : Float32) (bits : Nat) (small : bits < 0x7F800000) :
    Light (Sampling.fit32 low high bits) ∧ (value (Sampling.fit32 low high bits).toModel.unpack = 0 ∨
      ¬ high < Sampling.fit32 low high bits * Sampling.largest32 + low) := by
  induction bits with
  | zero =>
    have nothing : Sampling.fit32 low high 0 = 0 := by rw [Sampling.fit32]
    rw [nothing]
    exact ⟨⟨rfl, rfl⟩, .inl rfl⟩
  | succ bits ih =>
    unfold Sampling.fit32
    simp only
    split
    · exact ih (by omega)
    · exact ⟨light_ofBits small, .inr ‹_›⟩

/-- A factor that is found for a range. -/
theorem stretch_cases {factor : Float32} (finite : low.isFinite = true) (other : high.isFinite = true)
    (less : value low.toModel.unpack < value high.toModel.unpack)
    (found : Sampling.stretch? low high = some factor) :
    Light factor ∧ (value factor.toModel.unpack = 0 ∨
      ¬ high < factor * Sampling.largest32 + low) := by
  simp only [Sampling.stretch?] at found
  split at found
  · rename_i measured
    cases found
    apply fit32_cases
    have difference := Number.plus_stored
      (Number.rounds_sub (proper_of_isFinite other).fitted (proper_of_isFinite finite).fitted).fitted
      (Number.plus_sub (proper_of_isFinite other).fitted (proper_of_isFinite finite).fitted less)
    change ((high - low) / Sampling.largest32).toBits.toBitVec.toNat < _
    exact Number.lt_of_plus (Number.unpackSign_pack (Number.plus_div difference)) measured
  · cases found

/-! ### Units -/

theorem unpack_one :
    (1 : Float32).toModel.unpack = .finite .positive 8388608 (-23) (by decide) := rfl

theorem unpack_largest :
    Sampling.largest32.toModel.unpack = .finite .positive 16777214 (-24) (by decide) := rfl

/-- Units are made of the last bits of a number between one and two. -/
theorem unpack_ofBits_unit {k : Nat} (small : k < 2 ^ 23) :
    (Float32.ofBits (k.toUInt32 ||| 0x3F800000)).toModel.unpack =
      .finite .positive (2 ^ 23 + k) (-23) (by omega) := by
  have long : (2 ^ 23 + k).log2 = 23 := Number.log2_of_bits (by omega) (by omega)
  have canonical : Number.Canonical .binary32 (2 ^ 23 + k) (-23) := by
    rw [Number.canonical_iff, long]
    decide
  have whole : UnpackedFloat.unpack .binary32
      (UnpackedFloat.pack .binary32 (.finite .positive (2 ^ 23 + k) (-23) (by omega))) =
        .finite .positive (2 ^ 23 + k) (-23) (by omega) :=
    Number.unpack_pack canonical (by decide)
  have bits : (k.toUInt32 ||| 0x3F800000).toBitVec =
      UnpackedFloat.pack .binary32 (.finite .positive (2 ^ 23 + k) (-23) (by omega)) := by
    have packed : UnpackedFloat.pack .binary32 (.finite .positive (2 ^ 23 + k) (-23) (by omega)) =
        UnpackedFloat.packComponents .binary32 .positive 127#8 (BitVec.ofNat 23 (2 ^ 23 + k)) := by
      simp only [UnpackedFloat.pack]
      rw [if_neg (by decide), if_pos (by rw [long]; rfl)]
      rfl
    rw [packed]
    apply BitVec.eq_of_toNat_eq
    have left : (k.toUInt32 ||| 0x3F800000).toBitVec.toNat = k % 2 ^ 32 ||| 0x3F800000 := rfl
    have right : (UnpackedFloat.packComponents .binary32 .positive 127#8
        (BitVec.ofNat 23 (2 ^ 23 + k))).toNat = 0x3F800000 ||| (2 ^ 23 + k) % 2 ^ 23 := by
      simp only [UnpackedFloat.packComponents, BitVec.toNat_append, BitVec.toNat_ofNat]
      rfl
    rw [left, right, Nat.or_comm, Nat.add_mod_left, Nat.mod_eq_of_lt small,
      Nat.mod_eq_of_lt (by omega)]
  change UnpackedFloat.unpack .binary32
    (UnpackedFloat.pack .binary32 (UnpackedFloat.unpack .binary32 _)) = _
  rw [bits, whole, whole]

/-- The upper 23 bits of a word. -/
theorem exists_shifted (word : UInt32) : ∃ k < 2 ^ 23, word >>> 9 = k.toUInt32 := by
  refine ⟨(word >>> 9).toNat, ?_, UInt32.ofNat_toNat.symm⟩
  have bound := word.toNat_lt
  rw [UInt32.toNat_shiftRight]
  change word.toNat >>> 9 < _
  rw [Nat.shiftRight_eq_div_pow]
  omega

/-- A unit is what is left of such a number without the one. -/
theorem rounds_unit {k : Nat} (small : k < 2 ^ 23) :
    Number.Rounds .binary32 (Number.size k (-23))
      (.sub .binary32 (Float32.ofBits (k.toUInt32 ||| 0x3F800000)).toModel.unpack
        (1 : Float32).toModel.unpack) := by
  have first := unpack_ofBits_unit small
  have finite : (Float32.ofBits (k.toUInt32 ||| 0x3F800000)).isFinite = true := by
    change UnpackedFloat.isFinite _ = true
    rw [first]
    rfl
  have exact : value (Float32.ofBits (k.toUInt32 ||| 0x3F800000)).toModel.unpack -
      value (1 : Float32).toModel.unpack = Number.size k (-23) := by
    rw [first, unpack_one]
    simp only [value, Number.signed, Number.size]
    push_cast
    ring
  rw [← exact]
  exact Number.rounds_sub (proper_of_isFinite finite).fitted (proper_of_isFinite rfl).fitted

/-- A unit is not negative and at most as large as the largest one. -/
theorem unit_between (word : UInt32) :
    Number.Fitted .binary32 (Sampling.unit word : Float32).toModel.unpack ∧
      0 ≤ value (Sampling.unit word : Float32).toModel.unpack ∧
        value (Sampling.unit word : Float32).toModel.unpack ≤
          value Sampling.largest32.toModel.unpack := by
  obtain ⟨k, small, bits⟩ := exists_shifted word
  have rounds := rounds_unit small
  have edge : Proper .binary32 Sampling.largest32.toModel.unpack := proper_of_isFinite rfl
  have most : Number.size k (-23) ≤ value Sampling.largest32.toModel.unpack := by
    rw [unpack_largest]
    change Number.size k (-24 + (1 : Nat)) ≤ Number.size 16777214 (-24)
    rw [← Number.size_mul_pow]
    exact Number.size_mono (by omega) _
  have least := rounds.le_value (a := .zero .positive) trivial Number.size_nonneg
  have greatest := rounds.value_le edge.fitted most
  have unit : (Sampling.unit word : Float32).toModel.unpack = UnpackedFloat.sub .binary32
      (Float32.ofBits (k.toUInt32 ||| 0x3F800000)).toModel.unpack (1 : Float32).toModel.unpack := by
    rw [← (edge.of_value_le rounds.fitted least greatest).stored, ← bits]
    rfl
  rw [unit]
  exact ⟨rounds.fitted, least, greatest⟩

theorem value_largest_le_one : value Sampling.largest32.toModel.unpack ≤ 1 := by
  rw [unpack_largest]
  simp only [value, Number.signed, Number.size]
  norm_num

end Arcade.Single

namespace Arcade

open Number (value)

/-! ### Numbers of a scene -/

/-- Each number lies between the bounds it was asked for. -/
def Generator.KeepsRange (R S : Type) [Scalar S] [Generator R S] : Prop :=
  ∀ (random later : R) (low high number : S), Scalar.isFinite low = true →
    Scalar.isFinite high = true → low < high →
    Generator.within random low high = .ok (number, later) → low ≤ number ∧ number ≤ high

/-- In single precision the generator of a scene keeps each range. -/
theorem Random.keepsRange : Generator.KeepsRange Random Float32 := by
  intro random later low high number lowFinite highFinite order drawn
  have finite := Single.isFinite_iff.mp lowFinite
  have other := Single.isFinite_iff.mp highFinite
  have first := Single.proper_of_isFinite finite
  have last := Single.proper_of_isFinite other
  have less : value low.toModel.unpack < value high.toModel.unpack :=
    (Number.lt_iff_value_lt first.fitted last.fitted).mp (decide_eq_true_iff.mp order)
  change Random.within random low high = _ at drawn
  unfold Random.within at drawn
  split at drawn
  · cases drawn
  · rename_i factor found
    cases drawn
    obtain ⟨⟨light, plus⟩, fits⟩ := Single.stretch_cases finite other less found
    obtain ⟨small, start, below⟩ := Single.unit_between random.word.1
    have edge := Single.proper_of_isFinite (x := Sampling.largest32) rfl
    have kept := Number.le_stretched_le first last less.le small edge.fitted start below
      Single.value_largest_le_one (Single.proper_of_isFinite light)
      (Single.Light.value_nonneg ⟨light, plus⟩)
      (fits.imp_right fun never le => never (decide_eq_true_iff.mpr le))
    exact ⟨decide_eq_true_iff.mpr kept.1, decide_eq_true_iff.mpr kept.2⟩

end Arcade
