import Mathlib
import SeriesImport.Number.Binary
/-!
# Doubles kept as bits

A double is its 64 bits: a sign bit, eleven bits of exponent and fifty-two bits of fraction
(`Binary.ofBits_fields`). The logical model of doubles keeps a pattern as it is, except that
every not-a-number becomes the one quiet not-a-number. So a double made from a pattern that holds
a number or an infinity gives the pattern back as its bits (`toBits_ofBits`), and reads as the
pattern does (`Binary.ofFloat_ofBits`).
-/

namespace SeriesImport.Number

open Float.Model UnpackedFloat

/-! ## The fields of a pattern -/

/-- The bits of a sign, an exponent field and a fraction read as the double they make. -/
theorem Binary.ofBits_fields (neg : Bool) {ef fr : ℕ} (he : ef < 2048) (hf : fr < 2 ^ 52) :
    Binary.ofBits ((if neg then 2 ^ 63 else 0) + ef * 2 ^ 52 + fr) =
      if ef = 2047 then (if fr = 0 then .infinite neg else .nan)
      else if ef = 0 then .finite neg fr (-1074)
      else .finite neg (fr + 2 ^ 52) ((ef : Int) - 1075) := by
  have hs : ((if neg then 2 ^ 63 else 0) + ef * 2 ^ 52 + fr) / 2 ^ 63 % 2 =
      if neg then 1 else 0 := by
    cases neg <;> simp <;> omega
  have he' : ((if neg then 2 ^ 63 else 0) + ef * 2 ^ 52 + fr) / 2 ^ 52 % 2048 = ef := by
    cases neg <;> simp <;> omega
  have hf' : ((if neg then 2 ^ 63 else 0) + ef * 2 ^ 52 + fr) % 2 ^ 52 = fr := by
    cases neg <;> simp <;> omega
  simp only [Binary.ofBits, hs, he', hf', beq_iff_eq]
  cases neg <;> simp

/-! ## Packing and unpacking -/

theorem sign_toBitVec_ofBitVec (v : BitVec 1) : (Sign.ofBitVec v).toBitVec = v := by
  revert v
  decide

theorem packComponents_unpack (b : BitVec Format.binary64.numBits) :
    packComponents .binary64 (Sign.ofBitVec (unpackSign b)) (unpackExponent b)
      (unpackMantissa b) = b := by
  simp only [packComponents, sign_toBitVec_ofBitVec, unpackSign, unpackExponent, unpackMantissa,
    BitVec.extractLsb]
  ext i hi
  grind

theorem toNat_unpackExponent (b : BitVec Format.binary64.numBits) :
    (unpackExponent b).toNat = b.toNat / 2 ^ 52 % 2048 := by
  simp [unpackExponent, BitVec.extractLsb_toNat, Nat.shiftRight_eq_div_pow]

theorem toNat_unpackMantissa (b : BitVec Format.binary64.numBits) :
    (unpackMantissa b).toNat = b.toNat % 2 ^ 52 := by
  simp [unpackMantissa, BitVec.extractLsb_toNat]

theorem toNat_one_append (v : BitVec 52) : (1#1 ++ v).toNat = 2 ^ 52 + v.toNat := by
  rw [BitVec.toNat_append, ← Nat.shiftLeft_add_eq_or_of_lt v.isLt]
  simp [Nat.shiftLeft_eq]

/-- Unpacking a pattern that holds no not-a-number and packing it again gives the pattern. -/
theorem pack_unpack {b : BitVec Format.binary64.numBits}
    (hnan : unpackExponent b = -1#_ → unpackMantissa b = 0#_) :
    UnpackedFloat.pack .binary64 (unpack .binary64 b) = b := by
  have hEl : (unpackExponent b).toNat < 2048 := (unpackExponent b).isLt
  have hMl : (unpackMantissa b).toNat < 2 ^ 52 := (unpackMantissa b).isLt
  conv_rhs => rw [← packComponents_unpack b]
  rw [UnpackedFloat.unpack]
  split
  · next hexp =>
    rw [if_pos (hnan hexp)]
    simp only [UnpackedFloat.pack, packedInfinity, hexp, hnan hexp]
    rfl
  split
  · next hexp0 =>
    split
    · next hm =>
      simp only [UnpackedFloat.pack, packedZero, hexp0, hm]
      rfl
    · next hm =>
      have hpos : 0 < (unpackMantissa b).toNat := by
        rcases Nat.eq_zero_or_pos (unpackMantissa b).toNat with h | h
        · exact absurd (BitVec.eq_of_toNat_eq (by simpa using h)) hm
        · exact h
      have hlog : (unpackMantissa b).toNat.log2 < 52 := (Nat.log2_lt hpos.ne').mpr hMl
      have hE0 : (unpackExponent b).toNat = 0 := by rw [hexp0]; rfl
      simp only [UnpackedFloat.pack, hE0]
      rw [if_neg (by decide), if_neg (by simp [Format.mantissaBits]; omega), hexp0,
        BitVec.ofNat_toNat, BitVec.setWidth_eq]
  · next hexp hexp0 =>
    have hE1 : (unpackExponent b).toNat ≠ 2047 :=
      fun h => hexp (BitVec.eq_of_toNat_eq (by simpa using h))
    have hE0 : (unpackExponent b).toNat ≠ 0 :=
      fun h => hexp0 (BitVec.eq_of_toNat_eq (by simpa using h))
    have hlog : (1#1 ++ unpackMantissa b).toNat.log2 = 52 := by
      rw [toNat_one_append, Nat.log2_eq_iff (by omega)]
      omega
    simp only [UnpackedFloat.pack, hlog]
    rw [if_neg (by simp [Format.exponentBias]; omega), if_pos (by simp [Format.mantissaBits])]
    congr 1
    · apply BitVec.eq_of_toNat_eq
      simp [Format.exponentBias]
      omega
    · apply BitVec.eq_of_toNat_eq
      rw [BitVec.toNat_ofNat, toNat_one_append]
      simp
      omega

/-! ## Doubles -/

/-- A double made from a pattern that holds no not-a-number keeps the pattern as its bits. -/
theorem toBits_ofBits {u : UInt64} (h : Binary.ofBits u.toNat ≠ .nan) :
    (Float.ofBits u).toBits = u := by
  have hnan : @unpackExponent .binary64 u.toBitVec = -1#_ →
      @unpackMantissa .binary64 u.toBitVec = 0#_ := by
    intro hexp
    have hE : u.toNat / 2 ^ 52 % 2048 = 2047 := by
      rw [← UInt64.toNat_toBitVec, ← toNat_unpackExponent, hexp]
      rfl
    apply BitVec.eq_of_toNat_eq
    rw [toNat_unpackMantissa, UInt64.toNat_toBitVec]
    by_contra hm
    have hfr : u.toNat % 2 ^ 52 ≠ 0 := by simpa using hm
    apply h
    simp only [Binary.ofBits, hE, hfr, beq_iff_eq, if_true, if_false]
  show UInt64.ofBitVec (UnpackedFloat.pack .binary64 (unpack .binary64 u.toBitVec)) = u
  rw [pack_unpack hnan]

theorem Binary.ofFloat_ofBits {b : ℕ} (hb : b < 2 ^ 64) (h : Binary.ofBits b ≠ .nan) :
    Binary.ofFloat (Float.ofBits (UInt64.ofNat b)) = Binary.ofBits b := by
  have hu : (UInt64.ofNat b).toNat = b := UInt64.toNat_ofNat_of_lt' hb
  rw [Binary.ofFloat, toBits_ofBits (by rwa [hu]), hu]

end SeriesImport.Number
