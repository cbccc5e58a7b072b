import Arcade.Proofs.Single

/-! Packing numbers into a binary format and unpacking them. A number of a format has as many bits as its
exponent asks for; unless it is too large it is unpacked as it was packed. -/

namespace Arcade.Number

open Float.Model (Format UnpackedFloat totalExponent)
open Float.Model.UnpackedFloat

variable {format : Format} {m : Nat} {e : Int}

/-! ### Fields of bits -/

theorem toNat_implicit (size : Nat) (mantissa : BitVec size) :
    (1#1 ++ mantissa).toNat = 2 ^ size + mantissa.toNat := by
  rw [BitVec.toNat_append, ← Nat.shiftLeft_add_eq_or_of_lt mantissa.isLt, BitVec.toNat_ofNat]
  simp [Nat.shiftLeft_eq]

theorem log2_of_bits {mantissa bits : Nat} (low : 2 ^ bits ≤ mantissa)
    (high : mantissa < 2 ^ (bits + 1)) : mantissa.log2 = bits := by
  have some : mantissa ≠ 0 := Nat.ne_of_gt (Nat.lt_of_lt_of_le (Nat.two_pow_pos bits) low)
  exact (Nat.log2_eq_iff some).mpr ⟨low, high⟩

theorem log2_implicit (size : Nat) (mantissa : BitVec size) :
    (1#1 ++ mantissa).toNat.log2 = size := by
  have below := mantissa.isLt
  rw [toNat_implicit]
  refine log2_of_bits (Nat.le_add_right _ _) ?_
  rw [Nat.pow_succ]
  omega

/-! ### Numbers of a format -/

/-- A mantissa has as many bits as its exponent asks for. -/
def Canonical (format : Format) (mantissa : Nat) (exponent : Int) : Prop :=
  format.targetExponent (totalExponent mantissa exponent) = exponent

theorem targetExponent_format (m : Nat) (e : Int) :
    format.targetExponent (totalExponent m e) =
      max (m.log2 + e - format.mantissaBitsWithoutImplicit) format.minExponent := by
  simp only [Format.targetExponent, totalExponent, Format.mantissaBits]
  omega

theorem canonical_iff : Canonical format m e ↔
    max (m.log2 + e - format.mantissaBitsWithoutImplicit) format.minExponent = e := by
  rw [Canonical, targetExponent_format]

theorem canonical_zero : Canonical format 0 format.minExponent := by
  rw [canonical_iff, Nat.log2_zero]
  omega

theorem Canonical.low (canonical : Canonical format m e) : format.minExponent ≤ e := by
  rw [canonical_iff] at canonical
  omega

theorem Canonical.lt (canonical : Canonical format m e) :
    m < 2 ^ (format.mantissaBitsWithoutImplicit + 1) := by
  rw [canonical_iff] at canonical
  rcases Nat.eq_zero_or_pos m with zero | positive
  · rw [zero]
    positivity
  · exact (Nat.log2_lt positive.ne').mp (by omega)

/-! ### Packing -/

/-- The largest exponent of a format. -/
def topExponent (format : Format) : Int :=
  2 ^ format.exponentBits - 2 - (format.exponentBias + format.mantissaBitsWithoutImplicit)

theorem minExponent_eq :
    format.minExponent = 1 - (format.exponentBias + format.mantissaBitsWithoutImplicit) := by
  have power : ((2 ^ (format.exponentBits - 1) : Nat) : Int) = 2 ^ (format.exponentBits - 1) := by
    push_cast
    rfl
  have some := Nat.two_pow_pos (format.exponentBits - 1)
  simp only [Format.minExponent, Format.mantissaBits, Format.exponentBias]
  omega

theorem topExponent_eq : topExponent format = ((2 ^ format.exponentBits : Nat) : Int) - 2 -
    (format.exponentBias + format.mantissaBitsWithoutImplicit) := by
  rw [topExponent]
  push_cast
  rfl

/-- Exponents of the format, but for the least and the largest, are stored as they are. -/
theorem toNat_field {exponent : Int} (low : format.minExponent ≤ exponent)
    (high : exponent ≤ topExponent format) :
    let field := BitVec.ofNat format.exponentBits
      (exponent + format.exponentBias + format.mantissaBitsWithoutImplicit).toNat
    (field.toNat : Int) = exponent + format.exponentBias + format.mantissaBitsWithoutImplicit ∧
      field ≠ -1#_ ∧ field ≠ 0#_ := by
  intro field
  rw [minExponent_eq] at low
  rw [topExponent_eq] at high
  have stored : (field.toNat : Int) =
      exponent + format.exponentBias + format.mantissaBitsWithoutImplicit := by
    rw [BitVec.toNat_ofNat, Nat.mod_eq_of_lt (by omega)]
    omega
  refine ⟨stored, fun full => ?_, fun empty => ?_⟩
  · rw [full, BitVec.neg_one_eq_allOnes, BitVec.toNat_allOnes] at stored
    omega
  · rw [empty, BitVec.toNat_zero] at stored
    omega

theorem zero_ne_neg_one : (0#_ : BitVec format.exponentBits) ≠ -1#_ :=
  fun same => format.he.ne' (BitVec.zero_eq_neg_one_iff.mp same)

/-- A number that has as many bits as its exponent asks for is packed as it is, if it is not too large. -/
theorem unpack_pack {sign : Sign} {mantissa : Nat} {exponent : Int} {positive : 0 < mantissa}
    (canonical : Canonical format mantissa exponent)
    (high : exponent ≤ topExponent format) :
    unpack format (pack format (.finite sign mantissa exponent positive)) =
      .finite sign mantissa exponent positive := by
  rw [canonical_iff] at canonical
  obtain ⟨stored, full, empty⟩ := toNat_field (by omega) high
  have few : ¬ 2 ^ format.exponentBits ≤
      (exponent + format.exponentBias + format.mantissaBitsWithoutImplicit).toNat + 1 := by
    rw [topExponent_eq] at high
    omega
  by_cases bits : mantissa.log2 = format.mantissaBitsWithoutImplicit
  · have whole : (1#1 ++ BitVec.ofNat format.mantissaBitsWithoutImplicit mantissa).toNat = mantissa := by
      have least := (Nat.le_log2 positive.ne').mp bits.ge
      have most := (Nat.log2_lt positive.ne').mp (Nat.lt_succ_of_le bits.le)
      rw [Nat.pow_succ] at most
      rw [toNat_implicit, BitVec.toNat_ofNat, Nat.mod_eq_sub_mod least, Nat.mod_eq_of_lt (by omega)]
      omega
    have packed : pack format (.finite sign mantissa exponent positive) =
        packComponents format sign (BitVec.ofNat _ (exponent + format.exponentBias +
          format.mantissaBitsWithoutImplicit).toNat) (BitVec.ofNat _ mantissa) := by
      simp only [pack]
      rw [if_neg few, if_pos (by rw [bits, Format.mantissaBits, Nat.add_comm])]
    rw [packed]
    simp only [unpack, unpackMantissa_packComponents, unpackExponent_packComponents,
      unpackSign_packComponents, Sign.ofBitVec_toBitVec]
    rw [if_neg full, if_neg empty]
    congr 1
    omega
  · -- a number with fewer bits has the least exponent
    obtain rfl : exponent = format.minExponent := by omega
    have small : mantissa < 2 ^ format.mantissaBitsWithoutImplicit :=
      (Nat.log2_lt positive.ne').mp (by omega)
    have kept : (BitVec.ofNat format.mantissaBitsWithoutImplicit mantissa).toNat = mantissa := by
      rw [BitVec.toNat_ofNat, Nat.mod_eq_of_lt small]
    have filled : ¬ BitVec.ofNat format.mantissaBitsWithoutImplicit mantissa = 0#_ := by
      intro same
      have sizes := congrArg BitVec.toNat same
      rw [kept] at sizes
      exact positive.ne' sizes
    have packed : pack format (.finite sign mantissa format.minExponent positive) =
        packComponents format sign 0#_ (BitVec.ofNat _ mantissa) := by
      simp only [pack]
      rw [if_neg few, if_neg (by rw [Format.mantissaBits]; omega)]
    rw [packed]
    simp only [unpack, unpackMantissa_packComponents, unpackExponent_packComponents,
      unpackSign_packComponents, Sign.ofBitVec_toBitVec]
    rw [if_neg zero_ne_neg_one, if_pos trivial, dif_neg filled]
    congr 1
    rw [minExponent_eq, BitVec.toNat_zero]
    omega

theorem unpack_packedInfinity (sign : Sign) :
    unpack format (packedInfinity format sign) = .infinity sign := by
  simp only [unpack, packedInfinity, unpackMantissa_packComponents, unpackExponent_packComponents,
    unpackSign_packComponents, Sign.ofBitVec_toBitVec]
  rw [if_pos trivial]
  exact if_pos rfl

/-- A number that is too large is packed as infinity. -/
theorem unpack_pack_large {sign : Sign} {mantissa : Nat} {exponent : Int} {positive : 0 < mantissa}
    (high : topExponent format < exponent) :
    unpack format (pack format (.finite sign mantissa exponent positive)) = .infinity sign := by
  rw [topExponent_eq] at high
  have packed : pack format (.finite sign mantissa exponent positive) =
      packedInfinity format sign := by
    simp only [pack]
    rw [if_pos (by omega)]
  rw [packed, unpack_packedInfinity]

/-- What is unpacked has as many bits as its exponent asks for. -/
theorem canonical_unpack (wide : 1 < format.exponentBits) {bits : BitVec format.numBits} {sign : Sign}
    {mantissa : Nat} {exponent : Int} {positive : 0 < mantissa}
    (unpacked : unpack format bits = .finite sign mantissa exponent positive) :
    Canonical format mantissa exponent ∧ exponent ≤ topExponent format := by
  have most : 2 ^ 2 ≤ 2 ^ format.exponentBits := Nat.pow_le_pow_right (by decide) wide
  have field : (@unpackExponent format bits).toNat < 2 ^ format.exponentBits := BitVec.isLt _
  rw [canonical_iff, topExponent_eq, minExponent_eq]
  simp only [unpack] at unpacked
  split at unpacked
  · split at unpacked <;> cases unpacked
  · rename_i fine
    have below : (@unpackExponent format bits).toNat ≠ 2 ^ format.exponentBits - 1 := by
      rw [BitVec.neg_one_eq_allOnes] at fine
      exact fun same => fine (BitVec.eq_of_toNat_eq (by rw [same, BitVec.toNat_allOnes]))
    split at unpacked
    · rename_i empty
      split at unpacked
      · cases unpacked
      · have small : (@unpackMantissa format bits).toNat < 2 ^ format.mantissaBitsWithoutImplicit :=
          BitVec.isLt _
        have short := Single.log2_lt_of_lt format.hm small
        cases unpacked
        rw [empty, BitVec.toNat_zero]
        omega
    · rename_i some
      have above : (@unpackExponent format bits).toNat ≠ 0 :=
        fun same => some (BitVec.eq_of_toNat_eq (by rw [same, BitVec.toNat_zero]))
      cases unpacked
      rw [log2_implicit]
      omega

end Arcade.Number
