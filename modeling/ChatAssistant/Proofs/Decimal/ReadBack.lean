import ChatAssistant.Arithmetic.Evaluation
import ChatAssistant.Proofs.Arithmetic.Reading
import ChatAssistant.Proofs.Decimal.Packing
import ChatAssistant.Proofs.Decimal.Plain
import ChatAssistant.Proofs.Decimal.Scientific

/-!
Numbers as they are shown to the reader, read back. The digits of an integer are also its shortest
ones, so that all numbers but one are shown in their plain text.
-/

namespace ChatAssistant.Decimal

open Float.Model Float.Model.UnpackedFloat
open Arithmetic (floatOperations readLiteral)

namespace Double

variable {double : Double}

theorem whole?_eq_some_iff {whole : Nat} : double.whole? = some whole ↔ double.value = whole := by
  unfold whole? value
  simp only [Nat.pow_eq]
  split
  · rename_i positional
    have same : double.significand * (2 : ℚ) ^ double.exponent =
        (double.significand * 2 ^ double.exponent.toNat : Nat) := by
      push_cast
      rw [zpow_toNat 2 positional]
    rw [same, Nat.cast_inj, Option.some_inj]
  · rename_i fractional
    have unit : 0 < 2 ^ (-double.exponent).toNat := Nat.pow_pos (by decide)
    have same : double.significand * (2 : ℚ) ^ double.exponent = whole ↔
        double.significand = whole * 2 ^ (-double.exponent).toNat := by
      rw [← neg_neg double.exponent, zpow_neg, ← zpow_toNat 2 (by omega), neg_neg,
        mul_inv_eq_iff_eq_mul₀ (by positivity)]
      norm_cast
    rw [same]
    split
    · rename_i divides
      rw [Option.some_inj, Nat.div_eq_iff_eq_mul_left unit (Nat.dvd_of_mod_eq_zero divides)]
    · rename_i rest
      constructor
      · rintro ⟨⟩
      · intro multiple
        rw [multiple, Nat.mul_mod_left] at rest
        exact absurd rfl rest

/-- Zeros behind the digits of the shortest decimal make it whole again. -/
theorem plain_shortest_of_whole (canonical : double.IsCanonical) (tie : Tie) {whole : Nat}
    (exactly : double.value = whole) (small : whole < 9007199254740992) :
    (double.shortest tie).plain = digits whole := by
  obtain ⟨positional, same⟩ := shortest_of_whole canonical tie exactly small
  rw [value_eq_natCast positional, Nat.cast_inj] at same
  rw [plain_eq_digits (shortest_coefficient_pos canonical tie) positional, same]

end Double

section Shown

variable {number : Float}

theorem unpack_cases (finite : number.isFinite = true) :
    (∃ sign, number.toModel.unpack = .zero sign) ∨
      ∃ sign double, ∃ canonical : Double.IsCanonical double, number.toModel.unpack =
        .finite sign double.significand double.exponent canonical.positive := by
  unfold Float.isFinite Float.Model.isFinite at finite
  cases unpacked : number.toModel.unpack with
  | notANumber =>
      rw [unpacked] at finite
      cases finite
  | infinity sign =>
      rw [unpacked] at finite
      cases finite
  | zero sign => exact .inl ⟨sign, rfl⟩
  | finite sign significand exponent positive =>
      exact .inr ⟨sign, ⟨significand, exponent⟩, isCanonical_of_unpack unpacked, rfl⟩

theorem shown_of_zero {sign : Sign} (unpacked : number.toModel.unpack = .zero sign) :
    shown number = ['0'] := by
  unfold shown shownInteger?
  rw [unpacked]
  rfl

theorem shown_eq_plainText
    (same : ∀ text, shownInteger? number = some text → text = plainText number) :
    shown number = plainText number := by
  unfold shown
  cases integer : shownInteger? number with
  | none => rfl
  | some text => exact same text integer

section Finite

variable {sign : Sign} {double : Double} (canonical : double.IsCanonical)
  (unpacked : number.toModel.unpack =
    .finite sign double.significand double.exponent canonical.positive)
include unpacked

theorem plainText_of_finite :
    plainText number = signed sign (double.shortest .up).plain := by
  unfold plainText
  rw [unpacked]

theorem shownInteger?_eq_some_iff {text : List Char} :
    shownInteger? number = some text ↔
      ∃ whole : Nat, double.value = whole ∧ whole < integerLimit ∧
        signed sign (digits whole) = text := by
  unfold shownInteger?
  rw [unpacked]
  dsimp only
  constructor
  · intro integer
    split at integer
    · rename_i whole isWhole
      split at integer
      · rename_i small
        cases integer
        exact ⟨whole, Double.whole?_eq_some_iff.mp isWhole, small, rfl⟩
      · cases integer
    · cases integer
  · rintro ⟨whole, isWhole, small, rfl⟩
    rw [Double.whole?_eq_some_iff.mpr isWhole]
    exact if_pos small

theorem shownInteger?_of_finite {text : List Char} (integer : shownInteger? number = some text) :
    text = plainText number := by
  obtain ⟨whole, isWhole, small, rfl⟩ := (shownInteger?_eq_some_iff canonical unpacked).mp integer
  have bounded : whole < 9007199254740992 := by
    have limit : integerLimit = 1000000000000000 := rfl
    omega
  rw [plainText_of_finite canonical unpacked,
    Double.plain_shortest_of_whole canonical .up isWhole bounded]

theorem shown_of_finite : shown number = signed sign (double.shortest .up).plain := by
  rw [← plainText_of_finite canonical unpacked]
  apply shown_eq_plainText
  intro text integer
  exact shownInteger?_of_finite canonical unpacked integer

end Finite

end Shown

section ReadBack

variable {double : Double} (canonical : double.IsCanonical)
include canonical

theorem unpack_toFloat {decimal : Decimal} (attracts : double.Attracts decimal.value) :
    decimal.toFloat.toModel.unpack =
      .finite .positive double.significand double.exponent canonical.positive := by
  change (Float.Model.pack (UnpackedFloat.ofScientific Format.binary64 decimal.coefficient
    decimal.exponent)).unpack = _
  rw [ofScientific_of_attracts canonical attracts, unpack_pack canonical]

theorem unpack_neg {number : Float} (unpacked : number.toModel.unpack =
    .finite .positive double.significand double.exponent canonical.positive) :
    number.neg.toModel.unpack =
      .finite .negative double.significand double.exponent canonical.positive := by
  change (Float.Model.pack number.toModel.unpack.neg).unpack = _
  rw [unpacked]
  exact unpack_pack canonical .negative

theorem readLiteral_signed {text : List Char} {decimal : Decimal}
    (isNumeral : ofNumeral? text = some decimal) (attracts : double.Attracts decimal.value)
    (sign : Sign) :
    ∃ literal, readLiteral (signed sign text) = .read literal [] ∧
      (literal.value floatOperations).toModel.unpack =
        .finite sign double.significand double.exponent canonical.positive := by
  have last : Arithmetic.NoNumeralNext [] := by
    rintro char ⟨⟩
  have unpacked := unpack_toFloat canonical attracts
  cases sign with
  | positive =>
      have reads := Arithmetic.readLiteral_numeral isNumeral last
      rw [List.append_nil] at reads
      exact ⟨_, reads, unpacked⟩
  | negative =>
      have reads := Arithmetic.readMagnitude_read isNumeral last true
      rw [List.append_nil] at reads
      exact ⟨_, reads, unpack_neg canonical unpacked⟩

end ReadBack

theorem beq_of_unpack {first second : Float}
    (finite : first.toModel.unpack ≠ .notANumber)
    (same : first.toModel.unpack = second.toModel.unpack) : (first == second) = true := by
  change first.toModel.unpack.beq second.toModel.unpack = true
  rw [beq_iff_ne_notANumber_and_eq, ← same]
  exact ⟨finite, finite, .inl rfl⟩

theorem zero_beq {number : Float} {sign : Sign} (unpacked : number.toModel.unpack = .zero sign) :
    (toFloat ⟨0, 0⟩ == number) = true := by
  have zero : (toFloat ⟨0, 0⟩).toModel.unpack = .zero .positive := unpack_packedZero
  cases sign with
  | positive =>
      apply beq_of_unpack
      · rw [zero]
        rintro ⟨⟩
      · rw [zero, unpacked]
  | negative =>
      change (toFloat ⟨0, 0⟩).toModel.unpack.beq number.toModel.unpack = true
      rw [zero, unpacked]
      rfl

theorem readLiteral_shown {number : Float} (finite : number.isFinite = true) :
    ∃ literal, readLiteral (shown number) = .read literal [] ∧
      (literal.value floatOperations == number) = true := by
  rcases unpack_cases finite with ⟨sign, unpacked⟩ | ⟨sign, double, canonical, unpacked⟩
  · refine ⟨⟨false, ⟨0, 0⟩⟩, ?_, zero_beq unpacked⟩
    rw [shown_of_zero unpacked]
    rfl
  · have attracts := (Double.shortest_cases canonical .up).1
    have positive := Double.shortest_coefficient_pos canonical .up
    obtain ⟨decimal, isNumeral, same⟩ := ofNumeral?_plain positive
    rw [← same] at attracts
    obtain ⟨literal, reads, value⟩ := readLiteral_signed canonical isNumeral attracts sign
    rw [← shown_of_finite canonical unpacked] at reads
    refine ⟨literal, reads, ?_⟩
    apply beq_of_unpack
    · rw [value]
      rintro ⟨⟩
    · rw [value, unpacked]

theorem beq_of_shown_eq {first second : Float} (finiteFirst : first.isFinite = true)
    (finiteSecond : second.isFinite = true) (alike : shown first = shown second) :
    (first == second) = true := by
  obtain ⟨literal, reads, equal⟩ := readLiteral_shown finiteFirst
  obtain ⟨other, readsOther, equalOther⟩ := readLiteral_shown finiteSecond
  rw [alike, readsOther] at reads
  cases reads
  exact BEq.trans (BEq.symm equal) equalOther

theorem isPlainNumeral_shown {number : Float} (finite : number.isFinite = true) :
    ∃ sign text, shown number = signed sign text ∧ IsPlainNumeral text := by
  rcases unpack_cases finite with ⟨sign, unpacked⟩ | ⟨sign, double, canonical, unpacked⟩
  · exact ⟨.positive, _, shown_of_zero unpacked, .whole isWholePart_zero⟩
  · refine ⟨sign, _, shown_of_finite canonical unpacked, ?_⟩
    apply isPlainNumeral_plain (Double.shortest_coefficient_pos canonical .up)
    intro fractional
    apply Double.shortest_coefficient_mod canonical .up
    omega

theorem shownInteger?_eq_plainText {number : Float} (finite : number.isFinite = true)
    (other : number.toBits ≠ 9223372036854775808) {text : List Char}
    (integer : shownInteger? number = some text) : text = plainText number := by
  rcases unpack_cases finite with ⟨sign, unpacked⟩ | ⟨sign, double, canonical, unpacked⟩
  · cases sign with
    | positive =>
        unfold shownInteger? at integer
        rw [unpacked] at integer
        cases integer
        unfold plainText
        rw [unpacked]
        rfl
    | negative => exact absurd ((unpack_eq_zero_iff .negative).mp unpacked) other
  · exact shownInteger?_of_finite canonical unpacked integer

def exactValue (number : Float) : ℚ :=
  match number.toModel.unpack with
  | .finite sign significand exponent _ =>
      sign.apply significand * (2 : ℚ) ^ exponent
  | _ => 0

theorem abs_exactValue {number : Float} {sign : Sign} {double : Double}
    (canonical : double.IsCanonical) (unpacked : number.toModel.unpack =
      .finite sign double.significand double.exponent canonical.positive) :
    |exactValue number| = double.value := by
  have nonnegative : 0 ≤ double.value :=
    mul_nonneg (Nat.cast_nonneg _) (zpow_pos two_pos _).le
  unfold exactValue
  rw [unpacked]
  cases sign with
  | positive => exact abs_of_nonneg nonnegative
  | negative =>
      have opposite : ((Sign.negative.apply double.significand : Int) : ℚ) *
          2 ^ double.exponent = -double.value := by
        change ((-(double.significand : Int) : Int) : ℚ) * 2 ^ double.exponent = -double.value
        push_cast
        exact neg_mul _ _
      dsimp only
      rw [opposite, abs_neg, abs_of_nonneg nonnegative]

theorem exists_shownInteger?_iff {number : Float} (finite : number.isFinite = true) :
    (∃ text, shownInteger? number = some text) ↔
      ∃ whole : Nat, |exactValue number| = whole ∧ whole < integerLimit := by
  rcases unpack_cases finite with ⟨sign, unpacked⟩ | ⟨sign, double, canonical, unpacked⟩
  · have integer : shownInteger? number = some ['0'] := by
      unfold shownInteger?
      rw [unpacked]
    have zero : |exactValue number| = (0 : Nat) := by
      unfold exactValue
      rw [unpacked]
      exact abs_zero
    exact iff_of_true ⟨_, integer⟩ ⟨0, zero, by decide⟩
  · rw [abs_exactValue canonical unpacked]
    constructor
    · rintro ⟨text, integer⟩
      obtain ⟨whole, isWhole, small, _⟩ :=
        (shownInteger?_eq_some_iff canonical unpacked).mp integer
      exact ⟨whole, isWhole, small⟩
    · rintro ⟨whole, isWhole, small⟩
      exact ⟨_, (shownInteger?_eq_some_iff canonical unpacked).mpr ⟨whole, isWhole, small, rfl⟩⟩

/-- The text of a number is in plain notation and is read back as the same number. The digits of a
whole number below the limit are its plain text; only the negative zero has another one. -/
theorem shown_faithful (number : Float) (finite : number.isFinite = true) :
    (∃ sign text, shown number = signed sign text ∧ IsPlainNumeral text) ∧
    (∃ literal, readLiteral (shown number) = .read literal [] ∧
      (literal.value floatOperations == number) = true) ∧
    (∀ other : Float, other.isFinite = true → shown other = shown number →
      (other == number) = true) ∧
    ((∃ text, shownInteger? number = some text) ↔
      ∃ whole : Nat, |exactValue number| = whole ∧ whole < 1000000000000000) ∧
    (number.toBits ≠ 9223372036854775808 →
      (∀ text, shownInteger? number = some text → text = plainText number) ∧
        shown number = plainText number) ∧
    (number.toBits = 9223372036854775808 → shown number = ['0']) := by
  refine ⟨isPlainNumeral_shown finite, readLiteral_shown finite, ?_,
    exists_shownInteger?_iff finite, ?_, ?_⟩
  · intro other finiteOther alike
    exact beq_of_shown_eq finiteOther finite alike
  · intro other
    have integers : ∀ text, shownInteger? number = some text → text = plainText number :=
      fun text => shownInteger?_eq_plainText finite other
    exact ⟨integers, shown_eq_plainText integers⟩
  · intro negativeZero
    exact shown_of_zero ((unpack_eq_zero_iff .negative).mpr negativeZero)

theorem shown_faithful_sum :
    (Float.ofBits 4599075939470750516).isFinite = true ∧
      shown (Float.ofBits 4599075939470750516) = "0.30000000000000004".toList ∧
      ∃ literal, readLiteral "0.30000000000000004".toList = .read literal [] ∧
        (literal.value floatOperations == Float.ofBits 4599075939470750516) = true := by
  have finite : (Float.ofBits 4599075939470750516).isFinite = true := rfl
  have text : shown (Float.ofBits 4599075939470750516) = "0.30000000000000004".toList := by
    decide +kernel
  have readBack := (shown_faithful _ finite).2.1
  rw [text] at readBack
  exact ⟨finite, text, readBack⟩

end ChatAssistant.Decimal
