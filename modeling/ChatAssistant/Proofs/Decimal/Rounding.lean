import ChatAssistant.Proofs.Decimal.Interval
import ChatAssistant.Proofs.Decimal.Mantissa

/-!
Rounding to a double. A mantissa that holds a number is cut to the width of a double and rounded;
the outcome is the double that attracts the number.
-/

namespace ChatAssistant.Decimal

open Float.Model Float.Model.UnpackedFloat

theorem targetExponent_eq (mantissa : Nat) (exponent : Int) :
    Format.binary64.targetExponent (totalExponent mantissa exponent) =
      max (mantissa.log2 + 1 + exponent - 53) (-1074) :=
  rfl

namespace Double

variable {double : Double} {number : ℚ}

theorem attracts_iff : double.Attracts number ↔
    if double.significand % 2 = 0 then
      double.lowerQuarters ≤ 4 * (number / 2 ^ double.exponent) ∧
        4 * (number / 2 ^ double.exponent) ≤ double.upperQuarters
    else
      double.lowerQuarters < 4 * (number / 2 ^ double.exponent) ∧
        4 * (number / 2 ^ double.exponent) < double.upperQuarters := by
  have quarters : 4 * (number / 2 ^ double.exponent) = number / 2 ^ (double.exponent - 2) := by
    rw [zpow_sub₀ two_ne_zero]
    norm_num
    ring
  have positive := double.quarter_pos
  rw [quarters, le_div_iff₀ positive, div_le_iff₀ positive, lt_div_iff₀ positive,
    div_lt_iff₀ positive]
  rfl

theorem Attracts.roundsTo (attracts : double.Attracts number) :
    RoundsTo (number / 2 ^ double.exponent) double.significand := by
  have least : (4 * double.significand : ℚ) ≤ double.lowerQuarters + 2 := by
    exact_mod_cast double.le_lowerQuarters_add
  have most : (double.upperQuarters : ℚ) = 4 * double.significand + 2 := by
    rw [upperQuarters]
    push_cast
    rfl
  rw [attracts_iff] at attracts
  unfold RoundsTo
  split
  · rename_i even
    rw [if_pos even] at attracts
    constructor <;> linarith
  · rename_i odd
    rw [if_neg odd] at attracts
    constructor <;> linarith

/-- Below the double the numbers get twice as fine, and those that it attracts there are all but
the next double up. -/
theorem Attracts.roundsTo_narrow (attracts : double.Attracts number)
    (least : double.significand = 4503599627370496) (above : -1074 < double.exponent)
    (below : number < 2 ^ (double.exponent + 52)) :
    RoundsTo (number / 2 ^ (double.exponent - 1)) 9007199254740992 := by
  have quarters : double.lowerQuarters = 18014398509481983 := by
    unfold lowerQuarters isNarrowBelow
    rw [least, decide_eq_true (show leastExponent < double.exponent from above)]
    decide
  have halves : number / 2 ^ (double.exponent - 1) = 2 * (number / 2 ^ double.exponent) := by
    rw [zpow_sub_one₀ two_ne_zero]
    ring
  have short : number / 2 ^ double.exponent < 4503599627370496 := by
    rw [div_lt_iff₀ (zpow_pos two_pos _)]
    rw [zpow_add₀ two_ne_zero] at below
    norm_num at below
    linarith
  have bound := attracts_iff.mp attracts
  rw [least, if_pos (by decide), quarters] at bound
  unfold RoundsTo
  rw [if_pos (by decide), halves]
  push_cast at bound ⊢
  constructor <;> linarith

variable (canonical : double.IsCanonical)
include canonical

theorem Attracts.lt_binade (attracts : double.Attracts number) :
    number < 2 ^ (double.exponent + 53) := by
  have quarters : double.upperQuarters < 36028797018963968 := by
    have := canonical.small
    unfold upperQuarters
    omega
  calc
    number ≤ double.upper := attracts.bounds.2
    _ < 36028797018963968 * 2 ^ (double.exponent - 2) := by
      apply mul_lt_mul_of_pos_right _ double.quarter_pos
      exact_mod_cast quarters
    _ = 2 ^ (double.exponent + 53) := by
      rw [show double.exponent + 53 = 55 + (double.exponent - 2) by omega, zpow_add₀ two_ne_zero]
      norm_num

theorem Attracts.binade_lt (attracts : double.Attracts number) (above : -1074 < double.exponent) :
    2 ^ (double.exponent + 51) < number ∧
      (double.significand ≠ 4503599627370496 → 2 ^ (double.exponent + 52) < number) := by
  have full : 4503599627370496 ≤ double.significand := by
    by_contra short
    have := canonical.full (by omega)
    omega
  have least := double.le_lowerQuarters_add
  constructor
  · calc
      (2 : ℚ) ^ (double.exponent + 51) = 9007199254740992 * 2 ^ (double.exponent - 2) := by
        rw [show double.exponent + 51 = 53 + (double.exponent - 2) by omega, zpow_add₀ two_ne_zero]
        norm_num
      _ < double.lower := by
        apply mul_lt_mul_of_pos_right _ double.quarter_pos
        exact_mod_cast (show 9007199254740992 < double.lowerQuarters by omega)
      _ ≤ number := attracts.bounds.1
  · intro other
    calc
      (2 : ℚ) ^ (double.exponent + 52) = 18014398509481984 * 2 ^ (double.exponent - 2) := by
        rw [show double.exponent + 52 = 54 + (double.exponent - 2) by omega, zpow_add₀ two_ne_zero]
        norm_num
      _ < double.lower := by
        apply mul_lt_mul_of_pos_right _ double.quarter_pos
        exact_mod_cast (show 18014398509481984 < double.lowerQuarters by omega)
      _ ≤ number := attracts.bounds.1

theorem shiftToTargetExponent_canonical :
    shiftToTargetExponent Format.binary64 double.significand double.exponent .exact =
      (⟨double.significand, false, false⟩, double.exponent) := by
  have least := canonical.least
  have short : double.significand.log2 < 53 :=
    (Nat.log2_lt canonical.positive.ne').mpr canonical.small
  have unmoved : (Format.binary64.targetExponent
      (totalExponent double.significand double.exponent) - double.exponent).toNat = 0 := by
    rw [targetExponent_eq]
    omega
  unfold shiftToTargetExponent shiftToExponent
  dsimp only
  rw [unmoved, Int.natCast_zero, Int.add_zero]
  rfl

end Double

section Round

variable {mantissa : Nat} {exponent : Int} {accuracy : Accuracy} {number : ℚ}

theorem mantissa_ofMantissaAndAccuracy (mantissa : Nat) (accuracy : Accuracy) :
    (ExtendedMantissa.ofMantissaAndAccuracy mantissa accuracy).mantissa = mantissa := by
  unfold ExtendedMantissa.ofMantissaAndAccuracy
  split <;> rfl

theorem roundWithAccuracy_eq {held last : ExtendedMantissa} {target final : Int} {rounded : Nat}
    (first : shiftToTargetExponent Format.binary64 mantissa exponent accuracy = (held, target))
    (between : held.roundedMantissa = rounded)
    (second : shiftToTargetExponent Format.binary64 rounded target .exact = (last, final))
    (positive : 0 < last.mantissa) (sign : Sign) :
    roundWithAccuracy Format.binary64 sign mantissa exponent accuracy =
      .finite sign last.mantissa final positive := by
  unfold roundWithAccuracy
  rw [first]
  dsimp only
  rw [between, second]
  exact dif_neg positive.ne'

variable (represents :
  Represents (.ofMantissaAndAccuracy mantissa accuracy) (number / 2 ^ exponent))
include represents

theorem lt_two_zpow : number < 2 ^ (mantissa.log2 + 1 + exponent) := by
  have below := represents.bounds.2
  rw [mantissa_ofMantissaAndAccuracy, div_lt_iff₀ (zpow_pos two_pos _)] at below
  apply below.trans_le
  rw [zpow_add₀ two_ne_zero]
  apply mul_le_mul_of_nonneg_right _ (zpow_pos two_pos _).le
  exact_mod_cast mantissa.lt_log2_self

theorem two_zpow_le (some : mantissa ≠ 0) : 2 ^ (mantissa.log2 + exponent) ≤ number := by
  have above := represents.bounds.1
  rw [mantissa_ofMantissaAndAccuracy, le_div_iff₀ (zpow_pos two_pos _)] at above
  apply le_trans _ above
  rw [zpow_add₀ two_ne_zero]
  apply mul_le_mul_of_nonneg_right _ (zpow_pos two_pos _).le
  exact_mod_cast Nat.log2_self_le some

variable (fine : exponent ≤ Format.binary64.targetExponent (totalExponent mantissa exponent))
include fine

theorem represents_shifted :
    ∃ held, shiftToTargetExponent Format.binary64 mantissa exponent accuracy =
        (held, Format.binary64.targetExponent (totalExponent mantissa exponent)) ∧
      Represents held
        (number / 2 ^ Format.binary64.targetExponent (totalExponent mantissa exponent)) := by
  unfold shiftToTargetExponent shiftToExponent
  dsimp only
  generalize Format.binary64.targetExponent (totalExponent mantissa exponent) = target at fine
  have shifted := represents.shiftRight (target - exponent).toNat
  have whole : exponent + (target - exponent).toNat = target := by omega
  refine ⟨_, congrArg _ whole, ?_⟩
  rw [div_div, ← zpow_natCast, ← zpow_add₀ two_ne_zero, whole] at shifted
  exact shifted

variable {double : Double} (canonical : double.IsCanonical) (attracts : double.Attracts number)
include canonical attracts

/-- A number is cut to the exponent of the double that attracts it, or it lies just below a double
below which the numbers get twice as fine. -/
theorem targetExponent_cases :
    Format.binary64.targetExponent (totalExponent mantissa exponent) = double.exponent ∨
      Format.binary64.targetExponent (totalExponent mantissa exponent) = double.exponent - 1 ∧
        double.significand = 4503599627370496 ∧ -1074 < double.exponent ∧
        number < 2 ^ (double.exponent + 52) := by
  rw [targetExponent_eq] at fine ⊢
  have least := canonical.least
  have most : mantissa.log2 + 1 + exponent ≤ double.exponent + 53 := by
    by_cases none : mantissa = 0
    -- An empty mantissa has the least exponent, which is no larger than that of any double.
    · rw [none] at fine ⊢
      change exponent ≤ max (0 + 1 + exponent - 53) (-1074) at fine
      change 0 + 1 + exponent ≤ double.exponent + 53
      omega
    · have binade := (two_zpow_le represents none).trans_lt (attracts.lt_binade canonical)
      rw [zpow_lt_zpow_iff_right₀ one_lt_two] at binade
      omega
  by_cases subnormal : double.exponent = -1074
  · omega
  have above : -1074 < double.exponent := by omega
  obtain ⟨binade, inside⟩ := attracts.binade_lt canonical above
  have below := lt_two_zpow represents
  have wide := binade.trans below
  rw [zpow_lt_zpow_iff_right₀ one_lt_two] at wide
  by_cases full : mantissa.log2 + 1 + exponent = double.exponent + 53
  · omega
  have narrow : mantissa.log2 + 1 + exponent = double.exponent + 52 := by omega
  rw [narrow] at below
  refine .inr ⟨by omega, ?_, above, below⟩
  by_contra other
  exact absurd (inside other) below.le.not_gt

theorem roundWithAccuracy_of_attracts (sign : Sign) :
    roundWithAccuracy Format.binary64 sign mantissa exponent accuracy =
      .finite sign double.significand double.exponent canonical.positive := by
  obtain ⟨held, first, shifted⟩ := represents_shifted represents fine
  rcases targetExponent_cases represents fine canonical attracts with
    same | ⟨finer, least, above, below⟩
  · rw [same] at first shifted
    have rounded := shifted.roundedMantissa attracts.roundsTo
    exact roundWithAccuracy_eq first rounded (Double.shiftToTargetExponent_canonical canonical) _
      sign
  · rw [finer] at first shifted
    -- All the bits are ones and are rounded up, so that there is one more of them to cut.
    have rounded := shifted.roundedMantissa (attracts.roundsTo_narrow least above below)
    have once : (Format.binary64.targetExponent
        (totalExponent 9007199254740992 (double.exponent - 1)) - (double.exponent - 1)).toNat = 1 := by
      rw [targetExponent_eq, show Nat.log2 9007199254740992 = 53 by decide]
      omega
    have second : shiftToTargetExponent Format.binary64 9007199254740992 (double.exponent - 1)
        .exact = (⟨double.significand, false, false⟩, double.exponent) := by
      unfold shiftToTargetExponent shiftToExponent
      dsimp only
      rw [once, least, Int.natCast_one, Int.sub_add_cancel]
      rfl
    exact roundWithAccuracy_eq first rounded second _ sign

end Round

end ChatAssistant.Decimal
