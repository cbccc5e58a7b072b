import Arcade.Proofs.Rounding

/-! Widening a single and narrowing it again gives the single back, if it is finite: a double has room for
all bits of a single, so that neither rounds, and a number that fits its format is as it was packed. -/

namespace Arcade.Number

open Float.Model (Format UnpackedFloat totalExponent)
open Float.Model.UnpackedFloat

theorem targetExponent_double (mantissa : Nat) (exponent : Int) :
    Format.binary64.targetExponent (totalExponent mantissa exponent) =
      max (mantissa.log2 + exponent - 52) (-1074) :=
  targetExponent_format mantissa exponent

theorem ofModel_pack_unpack (x : Float32) : Float32.ofModel (.pack x.toModel.unpack) = x :=
  Float32.toBits_inj.mp (UInt32.toBitVec_inj.mp (pack_unpack_of_valid x.toModel.valid))

/-- A single that is finite is not changed by widening and narrowing it. -/
theorem narrow_widen {x : Float32} (finite : x.isFinite = true) : narrow (widen x) = x := by
  have known : x.toModel.unpack.isFinite = true := finite
  have packed := ofModel_pack_unpack x
  cases unpacked : x.toModel.unpack with
  | infinity sign =>
    rw [unpacked] at known
    cases known
  | notANumber =>
    rw [unpacked] at known
    cases known
  | zero sign =>
    rw [unpacked] at packed
    have wide : (widen x).toModel.unpack = .zero sign := by
      rw [widen, unpacked]
      cases sign <;> rfl
    rw [narrow, wide]
    exact packed
  | finite sign mantissa exponent positive =>
    rw [unpacked] at packed
    obtain ⟨fits, high⟩ := canonical_unpack (by decide) unpacked
    have place := Single.targetExponent_eq mantissa exponent
    rw [fits] at place
    change exponent ≤ 104 at high
    have target : Format.binary64.targetExponent (totalExponent mantissa exponent) =
        exponent - (52 - mantissa.log2 : Nat) := by
      rw [targetExponent_double]
      omega
    obtain ⟨filled, rounded, canonical⟩ := round_of_le sign positive target
    have wide : (widen x).toModel.unpack =
        .finite sign (mantissa <<< (52 - mantissa.log2)) (exponent - (52 - mantissa.log2 : Nat))
          filled := by
      rw [widen, unpacked]
      change unpack Format.binary64 (pack Format.binary64
        (UnpackedFloat.round .binary64 sign mantissa exponent)) = _
      rw [rounded]
      refine unpack_pack canonical ?_
      change _ ≤ (971 : Int)
      omega
    rw [narrow, wide]
    change Float32.ofModel (.pack (UnpackedFloat.round .binary32 sign _ _)) = x
    rw [round_shiftLeft sign positive fits]
    exact packed

end Arcade.Number
