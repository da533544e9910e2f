import ChatAssistant.Proofs.Decimal.Interval
import Mathlib

/-!
The bits of a double. What is unpacked from them has a significand as wide as it can be, and such a
number is found again in the bits that it is packed into.

The library is imported as a whole here: no smaller part of Mathlib brings the lemmas on packed
floats (`unpackSign_packComponents`, `unpack_eq_zero_iff_of_valid`) with it.
-/

namespace ChatAssistant.Decimal

open Float.Model Float.Model.UnpackedFloat

theorem toNat_leading_append (mantissa : BitVec 52) :
    (1#1 ++ mantissa).toNat = 4503599627370496 + mantissa.toNat := by
  rw [BitVec.toNat_append, ← Nat.shiftLeft_add_eq_or_of_lt mantissa.isLt]
  rfl

theorem isCanonical_subnormal {significand : Nat} (positive : 0 < significand)
    (short : significand < 4503599627370496) : Double.IsCanonical ⟨significand, -1074⟩ where
  positive := positive
  small := by
    change significand < 9007199254740992
    omega
  least := le_refl _
  most := show (-1074 : Int) ≤ 971 by decide
  full := fun _ => rfl

theorem isCanonical_normal {significand : Nat} {exponent : Int}
    (full : 4503599627370496 ≤ significand) (small : significand < 9007199254740992)
    (least : -1074 ≤ exponent) (most : exponent ≤ 971) :
    Double.IsCanonical ⟨significand, exponent⟩ where
  positive := by
    change 0 < significand
    omega
  small := small
  least := least
  most := most
  full short := absurd short full.not_gt

theorem isCanonical_of_unpack {model : Float.Model} {sign : Sign} {significand : Nat}
    {exponent : Int} {positive : 0 < significand}
    (unpacked : model.unpack = .finite sign significand exponent positive) :
    Double.IsCanonical ⟨significand, exponent⟩ := by
  have small : (@unpackMantissa Format.binary64 model.toBits.toBitVec).toNat < 4503599627370496 :=
    BitVec.isLt _
  have width : (@unpackExponent Format.binary64 model.toBits.toBitVec).toNat < 2048 :=
    BitVec.isLt _
  unfold Float.Model.unpack UnpackedFloat.unpack at unpacked
  dsimp only at unpacked
  split at unpacked
  · split at unpacked <;> cases unpacked
  · rename_i notLast
    split at unpacked
    · rename_i first
      split at unpacked
      · cases unpacked
      · cases unpacked
        rw [first]
        exact isCanonical_subnormal positive small
    · rename_i notFirst
      have least : (@unpackExponent Format.binary64 model.toBits.toBitVec).toNat ≠ 0 :=
        fun zero => notFirst (BitVec.eq_of_toNat_eq zero)
      have most : (@unpackExponent Format.binary64 model.toBits.toBitVec).toNat ≠ 2047 :=
        fun last => notLast (BitVec.eq_of_toNat_eq last)
      cases unpacked
      rw [toNat_leading_append]
      change Double.IsCanonical ⟨_, (BitVec.toNat _ : Int) - 1075⟩
      apply isCanonical_normal <;> omega

theorem unpack_eq_zero_iff {model : Float.Model} (sign : Sign) :
    model.unpack = .zero sign ↔
      model.toBits = UInt64.ofBitVec (packedZero Format.binary64 sign) := by
  rw [← UInt64.toBitVec_inj]
  exact unpack_eq_zero_iff_of_valid model.valid

theorem finite_eq_finite {sign : Sign} {first second : Nat} {exponent other : Int}
    {positive : 0 < first} {positive' : 0 < second} (significands : first = second)
    (exponents : exponent = other) :
    UnpackedFloat.finite sign first exponent positive = .finite sign second other positive' := by
  subst significands exponents
  rfl

section Bits

variable {bits : BitVec 64} {significand : Nat} (positive : 0 < significand)

theorem unpack_eq_subnormal (first : @unpackExponent Format.binary64 bits = 0#11)
    (mantissa : (@unpackMantissa Format.binary64 bits).toNat = significand) :
    UnpackedFloat.unpack Format.binary64 bits =
      .finite (Sign.ofBitVec (@unpackSign Format.binary64 bits)) significand (-1074) positive := by
  have notLast : @unpackExponent Format.binary64 bits ≠ -1#11 := by
    rw [first]
    decide
  have some : @unpackMantissa Format.binary64 bits ≠ 0#52 := by
    intro zero
    have none := congrArg BitVec.toNat zero
    rw [mantissa] at none
    exact positive.ne' none
  have least : ((@unpackExponent Format.binary64 bits).toNat : Int) - (1023 + 52) + 1 = -1074 := by
    rw [first]
    rfl
  unfold UnpackedFloat.unpack
  dsimp only
  rw [if_neg notLast, if_pos first, dif_neg some]
  exact finite_eq_finite mantissa least

theorem unpack_eq_normal {biased : Nat}
    (exponent : (@unpackExponent Format.binary64 bits).toNat = biased) (least : 0 < biased)
    (most : biased < 2047)
    (mantissa : 4503599627370496 + (@unpackMantissa Format.binary64 bits).toNat = significand) :
    UnpackedFloat.unpack Format.binary64 bits =
      .finite (Sign.ofBitVec (@unpackSign Format.binary64 bits)) significand (biased - 1075)
        positive := by
  have notLast : @unpackExponent Format.binary64 bits ≠ -1#11 := by
    intro last
    rw [last] at exponent
    exact absurd exponent most.ne'
  have notFirst : @unpackExponent Format.binary64 bits ≠ 0#11 := by
    intro first
    rw [first] at exponent
    exact absurd exponent least.ne
  rw [← toNat_leading_append] at mantissa
  unfold UnpackedFloat.unpack
  dsimp only
  rw [if_neg notLast, if_neg notFirst]
  refine finite_eq_finite mantissa ?_
  rw [exponent]
  rfl

end Bits

section Pack

variable {significand : Nat} (positive : 0 < significand)

theorem unpack_pack_subnormal (short : significand < 4503599627370496) (sign : Sign) :
    UnpackedFloat.unpack Format.binary64
        (UnpackedFloat.pack Format.binary64 (.finite sign significand (-1074) positive)) =
      .finite sign significand (-1074) positive := by
  have width : significand.log2 < 52 := (Nat.log2_lt positive.ne').mpr short
  have packed :
      UnpackedFloat.pack Format.binary64 (.finite sign significand (-1074) positive) =
        packComponents Format.binary64 sign 0#11 (BitVec.ofNat 52 significand) := by
    have narrow : ¬significand.log2 + 1 = Format.binary64.mantissaBits := by
      change ¬significand.log2 + 1 = 53
      omega
    unfold UnpackedFloat.pack
    dsimp only
    rw [if_neg (by decide), if_neg narrow]
  rw [packed, unpack_eq_subnormal positive unpackExponent_packComponents,
    unpackSign_packComponents, Sign.ofBitVec_toBitVec]
  rw [unpackMantissa_packComponents]
  exact Nat.mod_eq_of_lt short

theorem unpack_pack_normal (full : 4503599627370496 ≤ significand)
    (small : significand < 9007199254740992) {exponent : Int} (least : -1074 ≤ exponent)
    (most : exponent ≤ 971) (sign : Sign) :
    UnpackedFloat.unpack Format.binary64
        (UnpackedFloat.pack Format.binary64 (.finite sign significand exponent positive)) =
      .finite sign significand exponent positive := by
  have width : significand.log2 = 52 := (Nat.log2_eq_iff positive.ne').mpr ⟨full, small⟩
  obtain ⟨biased, shifted⟩ : ∃ biased : Nat, exponent = biased - 1075 :=
    ⟨(exponent + 1075).toNat, by omega⟩
  subst shifted
  have packed :
      UnpackedFloat.pack Format.binary64 (.finite sign significand (biased - 1075) positive) =
        packComponents Format.binary64 sign (BitVec.ofNat 11 biased)
          (BitVec.ofNat 52 significand) := by
    have whole : ((biased : Int) - 1075 + Format.binary64.exponentBias + (52 : Nat)).toNat =
        biased := by
      change ((biased : Int) - 1075 + 1023 + 52).toNat = biased
      omega
    have bounded : ¬2 ^ Format.binary64.exponentBits ≤ biased + 1 := by
      change ¬2048 ≤ biased + 1
      omega
    have wide : significand.log2 + 1 = Format.binary64.mantissaBits := by
      rw [width]
      rfl
    unfold UnpackedFloat.pack
    dsimp only
    rw [whole, if_neg bounded, if_pos wide]
  have exponent : (@unpackExponent Format.binary64 (packComponents Format.binary64 sign
      (BitVec.ofNat 11 biased) (BitVec.ofNat 52 significand))).toNat = biased := by
    rw [unpackExponent_packComponents]
    exact Nat.mod_eq_of_lt (show biased < 2048 by omega)
  have mantissa : 4503599627370496 + (@unpackMantissa Format.binary64 (packComponents
      Format.binary64 sign (BitVec.ofNat 11 biased) (BitVec.ofNat 52 significand))).toNat =
        significand := by
    rw [unpackMantissa_packComponents]
    change 4503599627370496 + significand % 4503599627370496 = significand
    omega
  rw [packed, unpack_eq_normal positive exponent (by omega) (by omega) mantissa,
    unpackSign_packComponents, Sign.ofBitVec_toBitVec]

end Pack

theorem unpack_pack {double : Double} (canonical : double.IsCanonical) (sign : Sign) :
    (Float.Model.pack (.finite sign double.significand double.exponent canonical.positive)).unpack =
      .finite sign double.significand double.exponent canonical.positive := by
  obtain ⟨significand, exponent⟩ := double
  by_cases short : significand < 4503599627370496
  · have least : exponent = -1074 := canonical.full short
    subst least
    exact unpack_pack_subnormal _ short sign
  · exact unpack_pack_normal _ (Nat.le_of_not_lt short) canonical.small canonical.least
      canonical.most sign

end ChatAssistant.Decimal
