import Mathlib.Data.Nat.Init
import JsonExtract.Proofs.Decimal.Double

/-!
# The bits of a double

The bits of a finite double are its sign, its exponent and its mantissa.  The first bit of the
mantissa is left out, unless the exponent is the smallest one.
-/

namespace JsonExtract.Decimal

open Float.Model (Format)
open Float.Model.UnpackedFloat (Sign unpackMantissa unpackExponent unpackSign)

/-- Whether a double is finite and has this sign and this absolute value. -/
inductive Binary.IsOf (x : Float) : Sign → Binary → Prop where
  | zero {sign : Sign} (hunpack : x.toModel.unpack = .zero sign) : IsOf x sign ⟨0, -1074⟩
  | finite {sign : Sign} {mantissa : ℕ} {exponent : ℤ} {hpos : 0 < mantissa}
      (hunpack : x.toModel.unpack = .finite sign mantissa exponent hpos) :
      IsOf x sign ⟨mantissa, exponent⟩

/-! ## Fields -/

abbrev signBits (x : Float) : BitVec 1 :=
  @unpackSign Format.binary64 x.toModel.toBits.toBitVec

abbrev exponentBits (x : Float) : BitVec 11 :=
  @unpackExponent Format.binary64 x.toModel.toBits.toBitVec

abbrev mantissaBits (x : Float) : BitVec 52 :=
  @unpackMantissa Format.binary64 x.toModel.toBits.toBitVec

variable {x : Float}

theorem toNat_mantissaBits (x : Float) :
    (mantissaBits x).toNat = x.toBits.toNat % 2 ^ 52 := by
  unfold mantissaBits unpackMantissa
  rw [BitVec.toNat_cast, BitVec.extractLsb_toNat, Nat.shiftRight_zero]
  rfl

theorem toNat_exponentBits (x : Float) :
    (exponentBits x).toNat = x.toBits.toNat / 2 ^ 52 % 2 ^ 11 := by
  unfold exponentBits unpackExponent
  rw [BitVec.toNat_cast, BitVec.extractLsb_toNat, Nat.shiftRight_eq_div_pow]
  rfl

theorem toNat_signBits (x : Float) :
    (signBits x).toNat = x.toBits.toNat / 0x8000000000000000 := by
  have hsmall : x.toBits.toNat / 0x8000000000000000 < 2 := by
    have := x.toBits.toNat_lt
    omega
  unfold signBits unpackSign
  rw [BitVec.toNat_cast, BitVec.extractLsb_toNat, Nat.shiftRight_eq_div_pow]
  exact Nat.mod_eq_of_lt hsmall

theorem ofBitVec_signBits (x : Float) :
    Sign.ofBitVec (signBits x) =
      if x.toBits.toNat / 0x8000000000000000 = 1 then .negative else .positive := by
  have hsign := toNat_signBits x
  unfold Sign.ofBitVec
  by_cases hzero : signBits x = 0#1
  · rw [if_pos hzero, ← hsign, hzero]
    rfl
  · have hone : x.toBits.toNat / 0x8000000000000000 = 1 := by
      have hne := mt BitVec.eq_of_toNat_eq hzero
      have hlt := (signBits x).isLt
      rw [hsign] at hne hlt
      have hnone : (0#1).toNat = 0 := rfl
      omega
    rw [if_neg hzero, if_pos hone]

/-- The fields of a double, with the first bit of the mantissa put back. -/
theorem ofFloat_eq (x : Float) :
    Binary.ofFloat x =
      if exponentBits x = 0#11 then ⟨(mantissaBits x).toNat, -1074⟩
      else ⟨(mantissaBits x).toNat + 2 ^ 52, (exponentBits x).toNat - 1075⟩ := by
  simp only [BitVec.toNat_eq, toNat_mantissaBits, toNat_exponentBits]
  rfl

theorem toNat_one_append (mantissa : BitVec 52) :
    (1#1 ++ mantissa).toNat = mantissa.toNat + 2 ^ 52 := by
  rw [BitVec.toNat_append, ← Nat.shiftLeft_add_eq_or_of_lt mantissa.isLt, Nat.add_comm]
  rfl

/-- The double that is read off the bits is the one that they stand for. -/
theorem isOf_ofFloat (hfinite : x.isFinite = true) :
    Binary.IsOf x (if x.toBits.toNat / 0x8000000000000000 = 1 then .negative else .positive)
      (Binary.ofFloat x) := by
  have hfinite' : x.toModel.unpack.isFinite = true := hfinite
  have hunpack : x.toModel.unpack =
      Float.Model.UnpackedFloat.unpack Format.binary64 x.toModel.toBits.toBitVec := rfl
  rw [← ofBitVec_signBits, ofFloat_eq]
  unfold Float.Model.UnpackedFloat.unpack at hunpack
  by_cases hmost : exponentBits x = -1#11
  · rw [if_pos hmost] at hunpack
    by_cases hempty : mantissaBits x = 0#52
    · rw [hunpack, if_pos hempty] at hfinite'
      contradiction
    · rw [hunpack, if_neg hempty] at hfinite'
      contradiction
  · rw [if_neg hmost] at hunpack
    by_cases hleast : exponentBits x = 0#11
    · rw [if_pos hleast] at hunpack ⊢
      by_cases hempty : mantissaBits x = 0#52
      · rw [dif_pos hempty] at hunpack
        rw [hempty]
        exact .zero hunpack
      · have hzero : @unpackExponent Format.binary64 x.toModel.toBits.toBitVec = 0#11 := hleast
        rw [dif_neg hempty, hzero] at hunpack
        exact .finite hunpack
    · rw [if_neg hleast] at hunpack ⊢
      rw [← toNat_one_append]
      exact .finite hunpack

theorem isDouble_ofFloat (x : Float) : (Binary.ofFloat x).IsDouble := by
  unfold Binary.ofFloat
  dsimp only
  split
  · have hfraction := Nat.mod_lt x.toBits.toNat (Nat.two_pow_pos 52)
    exact ⟨by dsimp only; omega, Int.le_refl _, fun hne => absurd rfl hne⟩
  · have hfraction := Nat.mod_lt x.toBits.toNat (Nat.two_pow_pos 52)
    exact ⟨by dsimp only; omega, by dsimp only; omega, fun _ => Nat.le_add_left _ _⟩

end JsonExtract.Decimal
