import Mathlib
import Stencil.Decimal.Reading

/-!
# The bits of a double

A double made from bits has these bits, unless they are those of no number: only then are they made
canonical. A decimal that is read without a minus sign therefore has no sign bit.
-/

namespace Stencil.Decimal

open Float.Model (Format UnpackedFloat)
open Float.Model.UnpackedFloat

section Pack

variable {sign : Sign} {mantissa : Nat}

/-- A number below the least exponent's full mantissa is packed without an implicit bit. -/
theorem pack_subnormal (positive : 0 < mantissa) (small : mantissa < 2 ^ 52) :
    pack Format.binary64 (.finite sign mantissa (-1074) positive) =
      packComponents Format.binary64 sign 0#11 (BitVec.ofNat 52 mantissa) := by
  have short : mantissa.log2 < 52 := (Nat.log2_lt (by omega)).2 small
  have notFull : ¬mantissa.log2 + 1 = Format.binary64.mantissaBits := by
    have full : Format.binary64.mantissaBits = 53 := rfl
    omega
  rw [pack]
  exact (if_neg (by decide)).trans (if_neg notFull)

/-- A number with a full mantissa is packed with its exponent. -/
theorem pack_normal {biased : Nat} (positive : 0 < mantissa) (full : 2 ^ 52 ≤ mantissa)
    (fits : mantissa < 2 ^ 53) (finite : biased < 2047) :
    pack Format.binary64 (.finite sign mantissa ((biased : Int) - 1075) positive) =
      packComponents Format.binary64 sign (BitVec.ofNat 11 biased) (BitVec.ofNat 52 mantissa) := by
  have long : 52 ≤ mantissa.log2 := (Nat.le_log2 (by omega)).2 full
  have short : mantissa.log2 < 53 := (Nat.log2_lt (by omega)).2 fits
  have isFull : mantissa.log2 + 1 = Format.binary64.mantissaBits := by
    have width : Format.binary64.mantissaBits = 53 := rfl
    omega
  have exponent : ((biased : Int) - 1075 + (Format.binary64.exponentBias : Nat) +
      (Format.binary64.mantissaBitsWithoutImplicit : Nat)).toNat = biased := by
    have bias : ((Format.binary64.exponentBias : Nat) : Int) = 1023 := rfl
    have width : ((Format.binary64.mantissaBitsWithoutImplicit : Nat) : Int) = 52 := rfl
    omega
  have below : ¬2 ^ Format.binary64.exponentBits ≤ biased + 1 := by
    have width : 2 ^ Format.binary64.exponentBits = 2048 := rfl
    omega
  rw [pack]
  simp only [exponent]
  exact (if_neg below).trans (if_pos isFull)

end Pack

section Fields

variable (b : BitVec Format.binary64.numBits)

theorem packComponents_fields :
    packComponents Format.binary64 (Sign.ofBitVec (unpackSign b)) (unpackExponent b)
      (unpackMantissa b) = b := by
  have sign (v : BitVec 1) : (Sign.ofBitVec v).toBitVec = v := by
    revert v
    decide
  rw [packComponents, sign, unpackSign, unpackExponent, unpackMantissa]
  ext i hi
  grind

/-- The implicit bit is the one above the mantissa's. -/
theorem toNat_implicit (m : BitVec 52) : (1#1 ++ m).toNat = 2 ^ 52 + m.toNat := by
  have below := m.isLt
  rw [BitVec.toNat_append, ← Nat.shiftLeft_add_eq_or_of_lt below]
  rfl

/-- Unpacking and packing again changes nothing, except for what is no number. -/
theorem pack_unpack (number : unpackExponent b = -1#_ → unpackMantissa b = 0#_) :
    pack Format.binary64 (unpack Format.binary64 b) = b := by
  have small : (unpackMantissa b).toNat < 2 ^ 52 := (unpackMantissa b).isLt
  refine Eq.trans ?_ (packComponents_fields b)
  rw [unpack]
  split
  · next infinite =>
      simp only [number infinite, if_true, infinite]
      rfl
  · next finite =>
      split
      · next least =>
          split
          · next zero =>
              rw [least, zero]
              rfl
          · next nonzero =>
              have exponent : ((unpackExponent b).toNat : Int) -
                  ((Format.binary64.exponentBias : Nat) +
                    (Format.binary64.mantissaBitsWithoutImplicit : Nat)) + 1 = -1074 := by
                rw [least]
                rfl
              simp only [exponent]
              rw [pack_subnormal _ small, least, BitVec.ofNat_toNat, BitVec.setWidth_eq]
      · have bounded : (unpackExponent b).toNat < 2 ^ 11 := (unpackExponent b).isLt
        have below : (unpackExponent b).toNat < 2047 := by
          have different : (unpackExponent b).toNat ≠ 2047 := by
            intro same
            exact finite (BitVec.eq_of_toNat_eq same)
          omega
        have exponent : ((unpackExponent b).toNat : Int) -
            ((Format.binary64.exponentBias : Nat) +
              (Format.binary64.mantissaBitsWithoutImplicit : Nat)) =
            (unpackExponent b).toNat - 1075 := rfl
        have mantissa : (1#1 ++ unpackMantissa b).toNat = 2 ^ 52 + (unpackMantissa b).toNat :=
          toNat_implicit _
        have kept : BitVec.ofNat 52 (1#1 ++ unpackMantissa b).toNat = unpackMantissa b := by
          apply BitVec.eq_of_toNat_eq
          rw [BitVec.toNat_ofNat, mantissa]
          omega
        simp only [exponent]
        rw [pack_normal _ (by omega) (by omega) below, kept, BitVec.ofNat_toNat,
          BitVec.setWidth_eq]

end Fields

/-- Up to infinity, a double has the bits that it is made from. -/
theorem toBits_ofBits {n : Nat} (h : n % 2 ^ 63 ≤ infinityBits) (bits : n < 2 ^ 64) :
    (Float.ofBits (UInt64.ofNat n)).toBits.toNat = n := by
  have value : (UInt64.ofNat n).toBitVec.toNat = n := by
    simp only [UInt64.toBitVec_ofNat', BitVec.toNat_ofNat]
    omega
  have number : @unpackExponent Format.binary64 (UInt64.ofNat n).toBitVec = -1#_ →
      @unpackMantissa Format.binary64 (UInt64.ofNat n).toBitVec = 0#_ := by
    intro infinite
    have exponent : n / 2 ^ 52 % 2 ^ 11 = 2047 := by
      have same := congrArg BitVec.toNat infinite
      simpa [unpackExponent, value, Nat.shiftRight_eq_div_pow] using same
    apply BitVec.eq_of_toNat_eq
    have mantissa : n % 2 ^ 52 = 0 := by
      rw [infinityBits] at h
      omega
    simpa [unpackMantissa, value] using mantissa
  change (UInt64.ofBitVec (pack Format.binary64 (unpack Format.binary64 _))).toNat = n
  rw [pack_unpack _ number]
  exact value

/-- Whether a double has no minus sign. -/
def IsUnsigned (x : Float) : Prop := x.toBits.toNat < 2 ^ 63

theorem nearestBits_le (num den : Nat) : nearestBits num den ≤ infinityBits := by
  rw [nearestBits]
  split
  · exact Nat.zero_le _
  · exact Nat.min_le_left _ _

theorem toBits_nearest (num den : Nat) :
    (nearest false num den).toBits.toNat = nearestBits num den := by
  have below := nearestBits_le num den
  have bits : nearestBits num den < 2 ^ 63 := by
    rw [infinityBits] at below
    omega
  rw [nearest, signBit, if_neg Bool.false_ne_true, Nat.zero_add]
  exact toBits_ofBits (by omega) (by omega)

theorem toBits_infinity : (infinity false).toBits.toNat = infinityBits := by
  rw [infinity, signBit, if_neg Bool.false_ne_true, Nat.zero_add]
  exact toBits_ofBits (by decide) (by decide)

/-- What is read without a minus sign is at most infinity. -/
theorem toBits_ofDecimal_le (row : List Char) (exponent : Int) :
    (ofDecimal false row exponent).toBits.toNat ≤ infinityBits := by
  simp only [ofDecimal, nearestDecimal]
  split
  · exact (toBits_nearest 0 1).le.trans (nearestBits_le 0 1)
  · split
    · exact toBits_infinity.le
    · exact (toBits_nearest _ _).le.trans (nearestBits_le _ _)

/-- What is read without a minus sign has none. -/
theorem isUnsigned_ofDecimal (row : List Char) (exponent : Int) :
    IsUnsigned (ofDecimal false row exponent) :=
  lt_of_le_of_lt (toBits_ofDecimal_le row exponent) (by decide)

end Stencil.Decimal
