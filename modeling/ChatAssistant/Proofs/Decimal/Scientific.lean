import ChatAssistant.Decimal.FloatText
import ChatAssistant.Proofs.Decimal.Rounding

/-!
Decimals as doubles. The coefficient is multiplied by the power of ten, or divided by it, far
enough to fill a mantissa, and what is left over still tells how to round.
-/

namespace ChatAssistant.Decimal

open Float.Model Float.Model.UnpackedFloat

theorem ten_zpow_le_two_zpow {power : Int} (small : power ≤ 0) :
    (10 : ℚ) ^ power ≤ 2 ^ power := by
  have inverse : (2 : ℚ) ^ (-power) ≤ 10 ^ (-power) :=
    zpow_le_zpow_left₀ (by omega) zero_le_two (by norm_num)
  rw [zpow_neg, zpow_neg, inv_le_inv₀ (zpow_pos two_pos _) (zpow_pos (by norm_num) _)] at inverse
  exact inverse

section Bounds

variable {decimal : Decimal} {double : Double} (canonical : double.IsCanonical)
  (attracts : double.Attracts decimal.value)
include canonical attracts

theorem coefficient_pos_of_attracts : 0 < decimal.coefficient := by
  have positive := attracts.pos canonical.positive
  apply Nat.pos_of_ne_zero
  intro none
  rw [value, none, Nat.cast_zero, zero_mul] at positive
  exact lt_irrefl 0 positive

theorem exponent_le_of_attracts : decimal.exponent ≤ 2048 := by
  have some : (1 : ℚ) ≤ decimal.coefficient := by
    exact_mod_cast coefficient_pos_of_attracts canonical attracts
  by_contra large
  have most := canonical.most
  have value_lt : decimal.value < 2 ^ (1024 : Int) := by
    apply (attracts.lt_binade canonical).trans_le
    apply zpow_le_zpow_right₀ one_le_two
    omega
  have le_value : (2 : ℚ) ^ (1024 : Int) ≤ decimal.value :=
    calc
      (2 : ℚ) ^ (1024 : Int) ≤ 2 ^ decimal.exponent := by
        apply zpow_le_zpow_right₀ one_le_two
        omega
      _ ≤ 10 ^ decimal.exponent := by
        apply zpow_le_zpow_left₀ _ zero_le_two (by norm_num)
        omega
      _ ≤ decimal.coefficient * 10 ^ decimal.exponent :=
        le_mul_of_one_le_left (zpow_pos (by norm_num) _).le some
  exact absurd value_lt le_value.not_gt

theorem le_exponent_of_attracts :
    -(2048 + (decimal.coefficient.log2 : Int)) ≤ decimal.exponent := by
  have least := canonical.least
  by_contra small
  have quarters : 2 ≤ double.lowerQuarters := by
    have := double.le_lowerQuarters_add
    have := canonical.positive
    omega
  have le_value : (2 : ℚ) ^ (-1075 : Int) ≤ decimal.value :=
    calc
      (2 : ℚ) ^ (-1075 : Int) ≤ 2 ^ (1 + (double.exponent - 2)) := by
        apply zpow_le_zpow_right₀ one_le_two
        omega
      _ = 2 * 2 ^ (double.exponent - 2) := by rw [zpow_add₀ two_ne_zero, zpow_one]
      _ ≤ double.lower := by
        apply mul_le_mul_of_nonneg_right _ double.quarter_pos.le
        exact_mod_cast quarters
      _ ≤ decimal.value := attracts.bounds.1
  have value_lt : decimal.value < 2 ^ (-1075 : Int) :=
    calc
      decimal.coefficient * (10 : ℚ) ^ decimal.exponent
          < 2 ^ (decimal.coefficient.log2 + 1) * 10 ^ decimal.exponent := by
        apply mul_lt_mul_of_pos_right _ (zpow_pos (by norm_num) _)
        exact_mod_cast decimal.coefficient.lt_log2_self
      _ ≤ 2 ^ (decimal.coefficient.log2 + 1) * 2 ^ decimal.exponent := by
        apply mul_le_mul_of_nonneg_left _ (pow_pos two_pos _).le
        exact ten_zpow_le_two_zpow (by omega)
      _ ≤ 2 ^ (-1075 : Int) := by
        rw [← zpow_natCast, ← zpow_add₀ two_ne_zero]
        apply zpow_le_zpow_right₀ one_le_two
        omega
  exact absurd value_lt le_value.not_gt

end Bounds

section Parts

variable {decimal : Decimal}

theorem represents_product (positional : 0 ≤ decimal.exponent) :
    Represents (.ofMantissaAndAccuracy
      (decimal.coefficient <<< 53 * 10 ^ decimal.exponent.toNat) .exact)
      (decimal.value / 2 ^ (-53 : Int)) := by
  have whole : decimal.value / (2 : ℚ) ^ (-53 : Int) =
      (decimal.coefficient <<< 53 * 10 ^ decimal.exponent.toNat : Nat) := by
    rw [value, Nat.shiftLeft_eq, zpow_neg, div_inv_eq_mul]
    push_cast
    rw [zpow_toNat 10 positional]
    ring
  rw [whole]
  exact represents_of_exact _

theorem product_fine (some : 0 < decimal.coefficient) :
    -53 ≤ Format.binary64.targetExponent
      (totalExponent (decimal.coefficient <<< 53 * 10 ^ decimal.exponent.toNat) (-53)) := by
  have wide : 52 ≤ (decimal.coefficient <<< 53 * 10 ^ decimal.exponent.toNat).log2 := by
    have power : 0 < 10 ^ decimal.exponent.toNat := Nat.pow_pos (by decide)
    have shifted : 2 ^ 53 ≤ decimal.coefficient <<< 53 := by
      rw [Nat.shiftLeft_eq]
      exact Nat.le_mul_of_pos_left _ some
    have large : 2 ^ 53 ≤ decimal.coefficient <<< 53 * 10 ^ decimal.exponent.toNat :=
      shifted.trans (Nat.le_mul_of_pos_right _ power)
    rw [Nat.le_log2 (by omega)]
    omega
  rw [targetExponent_eq]
  omega

theorem represents_quotient {denominator : Nat} (positive : 0 < denominator) (mantissa : Nat)
    {exponent : Int} (fractional : exponent ≤ 0) :
    Represents (.ofMantissaAndAccuracy (mantissa <<< (-exponent).toNat / denominator)
      (accuracyOfFraction (mantissa <<< (-exponent).toNat % denominator) denominator))
      (mantissa / denominator / 2 ^ exponent) := by
  have nonzero : (denominator : ℚ) ≠ 0 := by exact_mod_cast positive.ne'
  have whole : (mantissa : ℚ) * 2 ^ (-exponent).toNat =
      denominator * (mantissa <<< (-exponent).toNat / denominator : Nat) +
        (mantissa <<< (-exponent).toNat % denominator : Nat) := by
    rw [Nat.shiftLeft_eq]
    exact_mod_cast (Nat.div_add_mod _ denominator).symm
  have parts : (mantissa : ℚ) / denominator / 2 ^ exponent =
      (mantissa <<< (-exponent).toNat / denominator : Nat) +
        (mantissa <<< (-exponent).toNat % denominator : Nat) / denominator := by
    rw [div_right_comm, div_eq_mul_inv (mantissa : ℚ), ← zpow_neg, ← zpow_toNat 2 (by omega), whole,
      add_div, mul_div_cancel_left₀ _ nonzero]
  rw [parts]
  exact represents_of_fraction _ (Nat.mod_lt _ positive)

def quotientExponent (mantissa denominator : Nat) : Int :=
  min 0 (Format.binary64.targetExponent
    (totalExponent mantissa 0 - totalExponent denominator 0))

theorem quotientExponent_le (mantissa denominator : Nat) :
    quotientExponent mantissa denominator ≤ 0 :=
  min_le_left _ _

theorem quotient_fine {mantissa denominator : Nat} (some : 0 < mantissa)
    (positive : 0 < denominator) {exponent : Int}
    (brought : exponent = quotientExponent mantissa denominator) :
    exponent ≤ Format.binary64.targetExponent
      (totalExponent (mantissa <<< (-exponent).toNat / denominator) exponent) := by
  change exponent = min 0 (max ((mantissa.log2 : Int) + 1 + 0 - (denominator.log2 + 1 + 0) - 53)
    (-1074)) at brought
  rw [targetExponent_eq]
  by_cases subnormal : exponent ≤ -1074
  · omega
  have wide : 2 ^ 52 ≤ mantissa <<< (-exponent).toNat / denominator := by
    rw [Nat.le_div_iff_mul_le positive, Nat.shiftLeft_eq]
    calc
      2 ^ 52 * denominator ≤ 2 ^ 52 * 2 ^ (denominator.log2 + 1) :=
        Nat.mul_le_mul_left _ denominator.lt_log2_self.le
      _ = 2 ^ (52 + (denominator.log2 + 1)) := (Nat.pow_add 2 52 _).symm
      _ ≤ 2 ^ (mantissa.log2 + (-exponent).toNat) := Nat.pow_le_pow_right (by decide) (by omega)
      _ = 2 ^ mantissa.log2 * 2 ^ (-exponent).toNat := Nat.pow_add 2 _ _
      _ ≤ mantissa * 2 ^ (-exponent).toNat :=
        Nat.mul_le_mul_right _ (Nat.log2_self_le some.ne')
  have filled : 52 ≤ (mantissa <<< (-exponent).toNat / denominator).log2 := by
    rw [Nat.le_log2 (by omega)]
    exact wide
  omega

theorem divCore_eq (mantissa denominator : Nat) :
    divCore Format.binary64 mantissa 0 denominator 0 =
      (mantissa <<< (-quotientExponent mantissa denominator).toNat / denominator,
        quotientExponent mantissa denominator,
        accuracyOfFraction
          (mantissa <<< (-quotientExponent mantissa denominator).toNat % denominator)
          denominator) := by
  unfold divCore quotientExponent
  simp only [Int.sub_zero, Int.zero_sub]

end Parts

theorem ofScientific_of_attracts {decimal : Decimal} {double : Double}
    (canonical : double.IsCanonical) (attracts : double.Attracts decimal.value) :
    UnpackedFloat.ofScientific Format.binary64 decimal.coefficient decimal.exponent =
      .finite .positive double.significand double.exponent canonical.positive := by
  have some := coefficient_pos_of_attracts canonical attracts
  have notLarge : ¬decimal.exponent > 2 ^ Format.binary64.exponentBits :=
    (exponent_le_of_attracts canonical attracts).not_gt
  have notSmall : ¬decimal.exponent <
      -((2 ^ Format.binary64.exponentBits : Int) + decimal.coefficient.log2) :=
    (le_exponent_of_attracts canonical attracts).not_gt
  unfold UnpackedFloat.ofScientific
  rw [dif_neg some.ne', if_neg notLarge, if_neg notSmall]
  by_cases positional : 0 ≤ decimal.exponent
  · rw [if_pos positional]
    exact roundWithAccuracy_of_attracts (represents_product positional) (product_fine some)
      canonical attracts _
  · rw [if_neg positional]
    have power : 0 < 10 ^ (-decimal.exponent).toNat := Nat.pow_pos (by decide)
    have quotient : decimal.value =
        decimal.coefficient / (10 ^ (-decimal.exponent).toNat : Nat) := by
      push_cast
      rw [zpow_toNat 10 (by omega), zpow_neg, div_inv_eq_mul]
      rfl
    have represents := represents_quotient power decimal.coefficient
      (quotientExponent_le decimal.coefficient (10 ^ (-decimal.exponent).toNat))
    rw [← quotient] at represents
    have rounded := roundWithAccuracy_of_attracts represents (quotient_fine some power rfl)
      canonical attracts .positive
    unfold UnpackedFloat.div
    dsimp only
    rw [divCore_eq]
    exact rounded

end ChatAssistant.Decimal
