import ChatAssistant.Proofs.Decimal.ReadBack

/-!
Whole numbers that a double holds without loss. However a decimal is written, its double is shown in
the digits of the number.
-/

namespace ChatAssistant.Decimal

open Float.Model Float.Model.UnpackedFloat

/-- A number of fewer bits is shifted until it fills the significand. -/
theorem exists_isCanonical_of_pos {whole : Nat} (positive : 0 < whole)
    (small : whole < 9007199254740992) :
    ∃ double : Double, double.IsCanonical ∧ double.value = whole := by
  have bits : whole.log2 < 53 := (Nat.log2_lt positive.ne').mpr small
  obtain ⟨shift, full⟩ : ∃ shift, whole.log2 + shift = 52 := ⟨52 - whole.log2, by omega⟩
  have lower : 2 ^ 52 ≤ whole * 2 ^ shift :=
    calc
      2 ^ 52 = 2 ^ whole.log2 * 2 ^ shift := by rw [← full, Nat.pow_add]
      _ ≤ whole * 2 ^ shift := Nat.mul_le_mul_right _ (Nat.log2_self_le positive.ne')
  have upper : whole * 2 ^ shift < 2 ^ 53 :=
    calc
      whole * 2 ^ shift < 2 ^ (whole.log2 + 1) * 2 ^ shift :=
        Nat.mul_lt_mul_of_pos_right Nat.lt_log2_self (Nat.pow_pos (by decide))
      _ = 2 ^ 53 := by rw [← Nat.pow_add, Nat.add_right_comm, full]
  refine ⟨⟨whole * 2 ^ shift, -shift⟩, isCanonical_normal lower upper (by omega) (by omega), ?_⟩
  rw [Double.value, zpow_neg, zpow_natCast]
  push_cast
  exact mul_inv_cancel_right₀ (pow_ne_zero _ two_ne_zero) _

theorem shown_of_whole {number : Float} {sign : Sign} {double : Double}
    (canonical : double.IsCanonical) (unpacked : number.toModel.unpack =
      .finite sign double.significand double.exponent canonical.positive) {whole : Nat}
    (exactly : double.value = whole) (small : whole < integerLimit) :
    shown number = signed sign (digits whole) := by
  unfold shown
  rw [(shownInteger?_eq_some_iff canonical unpacked).mpr ⟨whole, exactly, small, rfl⟩]
  rfl

variable {decimal : Decimal} {whole : Nat} (same : decimal.value = whole)
include same

theorem unpack_toFloat_of_zero (zero : whole = 0) :
    decimal.toFloat.toModel.unpack = .zero .positive := by
  have none : decimal.coefficient = 0 := by
    have power : (10 : ℚ) ^ decimal.exponent ≠ 0 := zpow_ne_zero _ (by norm_num)
    rw [zero, Nat.cast_zero, value, mul_eq_zero_iff_right power] at same
    exact_mod_cast same
  change (Float.Model.pack (UnpackedFloat.ofScientific Format.binary64 decimal.coefficient
    decimal.exponent)).unpack = _
  rw [none]
  exact unpack_packedZero

/-- The double of a whole number is finite and shows its digits, also with a sign before it. -/
theorem shown_toFloat_of_whole (small : whole < integerLimit) :
    decimal.toFloat.isFinite = true ∧ shown decimal.toFloat = digits whole ∧
      (0 < whole → shown (-decimal.toFloat) = '-' :: digits whole) := by
  rcases whole.eq_zero_or_pos with zero | positive
  · have unpacked := unpack_toFloat_of_zero same zero
    refine ⟨?_, ?_, ?_⟩
    · unfold Float.isFinite Float.Model.isFinite
      rw [unpacked]
      rfl
    · rw [shown_of_zero unpacked, zero]
      rfl
    · intro some
      omega
  · have limit : integerLimit = 1000000000000000 := rfl
    obtain ⟨double, canonical, exactly⟩ := exists_isCanonical_of_pos positive (by omega)
    have attracts : double.Attracts decimal.value := by
      rw [same, ← exactly]
      exact Double.attracts_value canonical.positive
    have unpacked := unpack_toFloat canonical attracts
    have opposite := unpack_neg canonical unpacked
    refine ⟨?_, shown_of_whole canonical unpacked exactly small,
      fun _ => shown_of_whole canonical opposite exactly small⟩
    unfold Float.isFinite Float.Model.isFinite
    rw [unpacked]
    rfl

end ChatAssistant.Decimal
