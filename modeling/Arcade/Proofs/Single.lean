import Arcade.Number.Scalar
import Mathlib

/-! How large numbers get in single precision. A number is moderate when its exponent stays below a
bound; rounding moves the exponent by little, so whole numbers of 32 bits are moderate, and what is
measured with them stays far from infinity. The library's lemmas on the model of floating-point numbers,
which this module and those above it build on, come with no smaller part of the library than the whole. -/

namespace Arcade.Single

open Float.Model (Format UnpackedFloat totalExponent)
open Float.Model.UnpackedFloat

/-- Zero, or finite with an exponent of at most a bound. -/
def Moderate (bound : Int) : UnpackedFloat → Prop
  | .zero _ => True
  | .finite _ _ exponent _ => exponent ≤ bound
  | .infinity _ | .notANumber => False

/-! ### Rounding -/

theorem mantissa_shift (extended : ExtendedMantissa) (amount : Nat) :
    (extended >>> amount).mantissa = extended.mantissa / 2 ^ amount := by
  induction amount with
  | zero => simp [HShiftRight.hShiftRight, Nat.repeat]
  | succ amount ih =>
    change (extended >>> amount).mantissa / 2 = _
    rw [ih, Nat.div_div_eq_div_mul, Nat.pow_succ]

theorem roundedMantissa_le (extended : ExtendedMantissa) :
    extended.roundedMantissa ≤ extended.mantissa + 1 := by
  obtain ⟨mantissa, roundBit, stickyBit⟩ := extended
  cases roundBit <;> cases stickyBit <;>
    simp [ExtendedMantissa.roundedMantissa, ExtendedMantissa.accuracy,
      Accuracy.roundToNearestEven]
  omega

theorem mantissa_ofMantissaAndAccuracy (mantissa : Nat) (accuracy : Accuracy) :
    (ExtendedMantissa.ofMantissaAndAccuracy mantissa accuracy).mantissa = mantissa := by
  cases accuracy with
  | exact => rfl
  | inexact ordering => cases ordering <;> rfl

theorem targetExponent_eq (mantissa : Nat) (exponent : Int) :
    Format.binary32.targetExponent (totalExponent mantissa exponent) =
      max (mantissa.log2 + exponent - 23) (-149) := by
  simp only [Format.targetExponent, totalExponent, Format.mantissaBits, Format.minExponent]
  norm_num
  omega

/-- What is shifted to fit has 24 bits. -/
theorem mantissa_shiftToTargetExponent_lt (mantissa : Nat) (exponent : Int) (accuracy : Accuracy) :
    (shiftToTargetExponent Format.binary32 mantissa exponent accuracy).1.mantissa < 2 ^ 24 := by
  simp only [shiftToTargetExponent, shiftToExponent, targetExponent_eq, mantissa_shift,
    mantissa_ofMantissaAndAccuracy]
  apply (Nat.div_lt_iff_lt_mul (Nat.two_pow_pos _)).mpr
  rw [← Nat.pow_add]
  exact Nat.lt_of_lt_of_le Nat.lt_log2_self (Nat.pow_le_pow_right (by decide) (by omega))

theorem exponent_shiftToTargetExponent (mantissa : Nat) (exponent : Int) (accuracy : Accuracy) :
    (shiftToTargetExponent Format.binary32 mantissa exponent accuracy).2 =
      max exponent (max (mantissa.log2 + exponent - 23) (-149)) := by
  simp only [shiftToTargetExponent, shiftToExponent, targetExponent_eq]
  omega

/-- Rounding adds at most one to the exponent that the format asks for. -/
theorem moderate_round (sign : Sign) {mantissa : Nat} {exponent bound : Int} (accuracy : Accuracy)
    (low : -148 ≤ bound) (own : exponent < bound) (total : mantissa.log2 + exponent - 22 ≤ bound) :
    Moderate bound (roundWithAccuracy Format.binary32 sign mantissa exponent accuracy) := by
  have bits := mantissa_shiftToTargetExponent_lt mantissa exponent accuracy
  have place := exponent_shiftToTargetExponent mantissa exponent accuracy
  unfold roundWithAccuracy
  generalize shiftToTargetExponent Format.binary32 mantissa exponent accuracy = first at bits place ⊢
  obtain ⟨extended, shifted⟩ := first
  have rounded := roundedMantissa_le extended
  have small : extended.roundedMantissa.log2 ≤ 24 := by
    rcases Nat.eq_zero_or_pos extended.roundedMantissa with zero | positive
    · simp [zero]
    · exact Nat.lt_succ_iff.mp ((Nat.log2_lt positive.ne').mpr (by simp only at bits; omega))
  have again := exponent_shiftToTargetExponent extended.roundedMantissa shifted .exact
  simp only at place again ⊢
  split
  · trivial
  · change _ ≤ bound
    rw [again]
    omega

/-! ### Packing -/

/-- What is unpacked is moderate when its exponent field is. -/
theorem moderate_unpack {bits : BitVec Format.binary32.numBits} {bound : Int} (low : -149 ≤ bound)
    (finite : (@unpackExponent Format.binary32 bits).toNat < 255)
    (small : ((@unpackExponent Format.binary32 bits).toNat : Int) - 150 ≤ bound) :
    Moderate bound (unpack Format.binary32 bits) := by
  simp only [unpack]
  split
  · rename_i full
    have same := congrArg BitVec.toNat full
    rw [same] at finite
    exact absurd finite (by decide)
  · split
    · rename_i empty
      split
      · trivial
      · change _ ≤ bound
        rw [empty]
        exact low
    · exact small

/-- A moderate number is packed as it is. -/
theorem moderate_unpack_pack {number : UnpackedFloat} {bound : Int} (low : -149 ≤ bound)
    (high : bound ≤ 104) (moderate : Moderate bound number) :
    Moderate bound (unpack Format.binary32 (pack Format.binary32 number)) := by
  cases number with
  | infinity sign => exact moderate.elim
  | notANumber => exact moderate.elim
  | zero sign =>
    rw [pack, unpack_packedZero]
    trivial
  | finite sign mantissa exponent positive =>
    have below : exponent ≤ bound := moderate
    simp only [pack]
    split
    · rename_i infinite
      change 256 ≤ (exponent + 127 + 23).toNat + 1 at infinite
      omega
    · have field : (BitVec.ofNat 8 (exponent + 127 + 23).toNat).toNat =
          (exponent + 127 + 23).toNat := by
        rw [BitVec.toNat_ofNat]
        omega
      split
      · apply moderate_unpack low
        · rw [unpackExponent_packComponents]
          change (BitVec.ofNat 8 (exponent + 127 + 23).toNat).toNat < 255
          omega
        · rw [unpackExponent_packComponents]
          change ((BitVec.ofNat 8 (exponent + 127 + 23).toNat).toNat : Int) - 150 ≤ bound
          omega
      · apply moderate_unpack low
        · simp
        · simp
          omega

/-- Mantissas have 24 bits. -/
theorem mantissa_unpack_lt {bits : BitVec Format.binary32.numBits} {sign : Sign} {mantissa : Nat}
    {exponent : Int} {positive : 0 < mantissa}
    (unpacked : unpack Format.binary32 bits = .finite sign mantissa exponent positive) :
    mantissa < 2 ^ 24 := by
  simp only [unpack] at unpacked
  split at unpacked
  · split at unpacked <;> cases unpacked
  · split at unpacked
    · split at unpacked
      · cases unpacked
      · cases unpacked
        exact Nat.lt_trans (BitVec.isLt _) (by decide)
    · cases unpacked
      exact BitVec.isLt _

theorem log2_lt_of_lt {mantissa bits : Nat} (positive : 0 < bits) (small : mantissa < 2 ^ bits) :
    mantissa.log2 < bits := by
  rcases Nat.eq_zero_or_pos mantissa with zero | some
  · rw [zero]
    exact positive
  · exact (Nat.log2_lt some.ne').mpr small

/-! ### Numbers -/

/-- A number whose exponent is at most a bound. -/
def Within (bound : Int) (number : Float32) : Prop := Moderate bound number.toModel.unpack

variable {number : Float32} {bound : Int}

theorem within_ofModel {unpacked : UnpackedFloat} (low : -149 ≤ bound) (high : bound ≤ 104)
    (moderate : Moderate bound unpacked) : Within bound (.ofModel (.pack unpacked)) :=
  moderate_unpack_pack low high moderate

theorem Within.isFinite (within : Within bound number) : number.isFinite = true := by
  change number.toModel.unpack.isFinite = true
  unfold Within at within
  revert within
  cases number.toModel.unpack with
  | zero sign => exact fun _ => rfl
  | finite sign mantissa exponent positive => exact fun _ => rfl
  | infinity sign => exact False.elim
  | notANumber => exact False.elim

/-- A number is zero, or finite with a mantissa of 24 bits. -/
theorem Within.cases (within : Within bound number) :
    (∃ sign, number.toModel.unpack = .zero sign) ∨
      ∃ sign mantissa exponent positive,
        number.toModel.unpack = .finite sign mantissa exponent positive ∧
          mantissa < 2 ^ 24 ∧ exponent ≤ bound := by
  unfold Within at within
  cases unpacked : number.toModel.unpack with
  | zero sign => exact .inl ⟨sign, rfl⟩
  | finite sign mantissa exponent positive =>
    rw [unpacked] at within
    exact .inr ⟨sign, mantissa, exponent, positive, rfl, mantissa_unpack_lt unpacked, within⟩
  | infinity sign => exact (unpacked ▸ within : Moderate bound (.infinity sign)).elim
  | notANumber => exact (unpacked ▸ within : Moderate bound .notANumber).elim

theorem moderate_ofNat {natural : Nat} (small : natural < 2 ^ 32) :
    Moderate 10 (UnpackedFloat.ofNat Format.binary32 natural) := by
  unfold UnpackedFloat.ofNat UnpackedFloat.ofInt UnpackedFloat.normalize
  rcases Nat.eq_zero_or_pos natural with zero | positive
  · rw [zero]
    trivial
  · rw [Int.compare_eq_gt.mpr (by omega)]
    simp only [UnpackedFloat.round, targetExponent_eq, decreaseExponent, Int.toNat_natCast]
    generalize (0 - max (natural.log2 + (0 : Int) - 23) (-149)).toNat = amount
    have shifted : natural <<< amount < 2 ^ (32 + amount) := by
      rw [Nat.shiftLeft_eq, Nat.pow_add]
      exact Nat.mul_lt_mul_of_pos_right small (Nat.two_pow_pos amount)
    have bits := log2_lt_of_lt (by omega) shifted
    exact moderate_round _ _ (by omega) (by omega) (by omega)

/-- Multiplying by one keeps a number moderate. -/
theorem Within.mul_one (within : Within bound number) (low : -149 ≤ bound) (high : bound ≤ 103) :
    Within (bound + 1) (number * Float32.ofBits 0x3F800000) := by
  have one : (Float32.ofBits 0x3F800000).toModel.unpack =
    .finite .positive 8388608 (-23) (by decide) := rfl
  refine within_ofModel (by omega) (by omega) ?_
  rw [one]
  rcases within.cases with ⟨sign, unpacked⟩ |
      ⟨sign, mantissa, exponent, positive, unpacked, bits, small⟩
  · rw [unpacked]
    trivial
  · rw [unpacked]
    have product : mantissa * 8388608 < 2 ^ 47 := by omega
    have total := log2_lt_of_lt (by decide) product
    exact moderate_round _ _ (by omega) (by omega) (by omega)

/-- Whole numbers of 32 bits are moderate. -/
theorem within_ofNat {natural : Nat} (small : natural < 2 ^ 32) :
    Within 11 (Float32.ofNat natural) := by
  change Within 11 (Float32.ofScientific natural false 0)
  unfold Float32.ofScientific
  split
  · have same : natural.toUInt64.toNat = natural := by
      change natural % 2 ^ 64 = natural
      omega
    have word : Within 10 natural.toUInt64.toFloat32 := by
      refine within_ofModel (by decide) (by decide) ?_
      change Moderate 10 (UnpackedFloat.ofNat Format.binary32 natural.toUInt64.toNat)
      rw [same]
      exact moderate_ofNat small
    exact word.mul_one (by decide) (by decide)
  · rename_i large
    refine within_ofModel (by decide) (by decide) ?_
    have some : natural ≠ 0 := by
      rintro rfl
      exact large (by decide)
    simp only [UnpackedFloat.ofScientific, some, ↓reduceDIte]
    rw [if_neg (by decide), if_neg (by simp), if_pos (by decide)]
    have product : natural <<< Format.binary32.mantissaBits *
        10 ^ (if false = true then Int.negOfNat 0 else Int.ofNat 0).toNat < 2 ^ 56 := by
      simp only [Nat.shiftLeft_eq, Format.mantissaBits]
      simp
      omega
    have total := log2_lt_of_lt (by decide) product
    have place : -(Format.binary32.mantissaBits : Int) + 0 = -24 := by decide
    simp only [mul, place]
    refine moderate_round _ _ ?_ ?_ ?_ <;> omega

theorem Within.sub_zero (within : Within bound number) (low : -149 ≤ bound) (high : bound ≤ 104) :
    Within bound (number - Float32.ofNat 0) ∧ Within bound (Float32.ofNat 0 - number) := by
  have zero : (Float32.ofNat 0).toModel.unpack = .zero .positive := rfl
  constructor
  · refine within_ofModel low high ?_
    rw [zero]
    rcases within.cases with ⟨sign, unpacked⟩ |
        ⟨sign, mantissa, exponent, positive, unpacked, -, small⟩
    · rw [unpacked]
      cases sign <;> trivial
    · rw [unpacked]
      exact small
  · refine within_ofModel low high ?_
    rw [zero]
    rcases within.cases with ⟨sign, unpacked⟩ |
        ⟨sign, mantissa, exponent, positive, unpacked, -, small⟩
    · rw [unpacked]
      cases sign <;> trivial
    · rw [unpacked]
      exact small

/-- Dividing by nearly one adds little to the exponent. -/
theorem Within.div_largest (within : Within bound number) (low : -149 ≤ bound) (high : bound ≤ 79) :
    Within (bound + 25) (number / Sampling.largest32) := by
  have largest : Sampling.largest32.toModel.unpack =
    .finite .positive 16777214 (-24) (by decide) := rfl
  refine within_ofModel (by omega) (by omega) ?_
  rw [largest]
  rcases within.cases with ⟨sign, unpacked⟩ |
      ⟨sign, mantissa, exponent, positive, unpacked, bits, small⟩
  · rw [unpacked]
    trivial
  · rw [unpacked]
    simp only [div, divCore]
    generalize Format.binary32.targetExponent _ = target
    generalize amounts : (exponent - -24 - min (exponent - -24) target).toNat = amount
    have quotient : mantissa <<< amount / 16777214 < 2 ^ (24 + amount) := by
      apply Nat.lt_of_le_of_lt (Nat.div_le_self _ _)
      rw [Nat.shiftLeft_eq, Nat.pow_add]
      exact Nat.mul_lt_mul_of_pos_right bits (Nat.two_pow_pos amount)
    have total := log2_lt_of_lt (by omega) quotient
    exact moderate_round _ _ (by omega) (by omega) (by omega)

/-! ### Ranges -/

/-- The range between zero and a whole number of 32 bits can be measured from either side. -/
theorem isSome_stretch {natural : Nat} (small : natural < 2 ^ 32) :
    (Sampling.stretch? (Float32.ofNat 0) (Float32.ofNat natural)).isSome = true ∧
      (Sampling.stretch? (Float32.ofNat natural) (Float32.ofNat 0)).isSome = true := by
  have measured {low high : Float32} (within : Within 11 (high - low)) :
      (Sampling.stretch? low high).isSome = true := by
    have finite := (within.div_largest (by decide) (by decide)).isFinite
    simp only [Sampling.stretch?, finite, ↓reduceIte, Option.isSome_some]
  obtain ⟨from_zero, to_zero⟩ := (within_ofNat small).sub_zero (by decide) (by decide)
  exact ⟨measured from_zero, measured to_zero⟩

end Arcade.Single
