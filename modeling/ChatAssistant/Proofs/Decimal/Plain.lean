import ChatAssistant.Proofs.Decimal.Digits
import ChatAssistant.Proofs.Decimal.Interval

/-!
Decimals in plain notation: no digit in it is useless, and what it is read back as has the same
value.
-/

namespace ChatAssistant.Decimal

/-- Digits, where a zero is first only if it is the only one. -/
structure IsWholePart (text : List Char) : Prop where
  nonempty : text ≠ []
  digits : ∀ char ∈ text, char.isDigit = true
  leading : text.head? = some '0' → text = ['0']

structure IsFraction (text : List Char) : Prop where
  nonempty : text ≠ []
  digits : ∀ char ∈ text, char.isDigit = true
  trailing : text.getLast? ≠ some '0'

inductive IsPlainNumeral : List Char → Prop
  | whole {text : List Char} (part : IsWholePart text) : IsPlainNumeral text
  | point {text places : List Char} (part : IsWholePart text) (fraction : IsFraction places) :
      IsPlainNumeral (text ++ '.' :: places)

theorem isWholePart_zero : IsWholePart ['0'] :=
  ⟨List.cons_ne_nil _ _, List.forall_mem_singleton.mpr rfl, fun _ => rfl⟩

theorem isWholePart_digits (number : Nat) : IsWholePart (digits number) := by
  refine ⟨digits_ne_nil number, fun char => isDigit_of_mem_digits, ?_⟩
  intro zero
  rcases Nat.eq_zero_or_pos number with rfl | positive
  · rfl
  · exact absurd zero (head?_digits_ne positive)

theorem plain_eq_digits {decimal : Decimal} (positive : 0 < decimal.coefficient)
    (positional : 0 ≤ decimal.exponent) :
    decimal.plain = digits (decimal.coefficient * 10 ^ decimal.exponent.toNat) := by
  rw [digits_mul_pow positive, plain, if_pos positional]

/-- The parts put together are the digits behind zeros, and there are as many digits behind the
point as the exponent says. -/
theorem plain_eq_point {decimal : Decimal} (fractional : decimal.exponent < 0)
    (positive : 0 < decimal.coefficient) :
    ∃ whole fraction count, decimal.plain = whole ++ '.' :: fraction ∧ IsWholePart whole ∧
      whole ++ fraction = zeros count ++ digits decimal.coefficient ∧
      (fraction.length : Int) = -decimal.exponent := by
  have negative : ¬0 ≤ decimal.exponent := by omega
  unfold plain
  dsimp only
  rw [if_neg negative]
  split
  · rename_i few
    refine ⟨_, _, 0, rfl, ?_, List.take_append_drop _ _, ?_⟩
    · have some : 0 < (digits decimal.coefficient).length - (-decimal.exponent).toNat := by omega
      refine ⟨?_, ?_, ?_⟩
      · intro empty
        have lengths := congrArg List.length empty
        rw [List.length_take, List.length_nil] at lengths
        omega
      · intro char member
        exact isDigit_of_mem_digits (List.mem_of_mem_take member)
      · intro zero
        rw [List.head?_take, if_neg (by omega)] at zero
        exact absurd zero (head?_digits_ne positive)
    · rw [List.length_drop]
      omega
  · rename_i many
    refine ⟨['0'], zeros ((-decimal.exponent).toNat - (digits decimal.coefficient).length) ++
      digits decimal.coefficient, (-decimal.exponent).toNat -
      (digits decimal.coefficient).length + 1, rfl, isWholePart_zero, ?_, ?_⟩
    · rw [zeros, zeros, List.replicate_succ]
      rfl
    · rw [List.length_append, length_zeros]
      omega

theorem isPlainNumeral_plain {decimal : Decimal} (positive : 0 < decimal.coefficient)
    (short : decimal.exponent < 0 → decimal.coefficient % 10 ≠ 0) :
    IsPlainNumeral decimal.plain := by
  by_cases fractional : decimal.exponent < 0
  · obtain ⟨whole, fraction, count, shape, part, parts, length⟩ :=
      plain_eq_point fractional positive
    rw [shape]
    have nonempty : fraction ≠ [] := by
      rintro rfl
      rw [List.length_nil] at length
      omega
    refine .point part ⟨nonempty, ?_, ?_⟩
    · intro char member
      have inDigits : char ∈ zeros count ++ digits decimal.coefficient := by
        rw [← parts]
        exact List.mem_append_right _ member
      rcases List.mem_append.mp inDigits with zero | digit
      · exact isDigit_of_mem_zeros zero
      · exact isDigit_of_mem_digits digit
    · have last : fraction.getLast? = some (Nat.digitChar (decimal.coefficient % 10)) := by
        rw [← List.getLast?_append_of_ne_nil whole nonempty, parts,
          List.getLast?_append_of_ne_nil _ (digits_ne_nil _), getLast?_digits]
      rw [last]
      intro zero
      exact short fractional (Nat.digitChar_eq_zero.mp (Option.some.inj zero))
  · rw [plain_eq_digits positive (by omega)]
    exact .whole (isWholePart_digits _)

theorem ofNumeral?_plain {decimal : Decimal} (positive : 0 < decimal.coefficient) :
    ∃ read, ofNumeral? decimal.plain = some read ∧ read.value = decimal.value := by
  by_cases fractional : decimal.exponent < 0
  · obtain ⟨whole, fraction, count, shape, part, parts, length⟩ :=
      plain_eq_point fractional positive
    have digitsOf : ∀ char ∈ whole ++ fraction, char.isDigit = true := by
      rw [parts, List.forall_mem_append]
      exact ⟨fun char => isDigit_of_mem_zeros, fun char => isDigit_of_mem_digits⟩
    rw [shape]
    refine ⟨_, ofNumeral?_point part.nonempty digitsOf, ?_⟩
    rw [parts, ofDigits_append, ofDigits_zeros, ofDigits_digits, Nat.zero_mul, Nat.zero_add, length,
      Int.neg_neg]
  · have part := isWholePart_digits (decimal.coefficient * 10 ^ decimal.exponent.toNat)
    rw [plain_eq_digits positive (by omega)]
    refine ⟨_, ofNumeral?_digits part.nonempty part.digits, ?_⟩
    rw [ofDigits_digits, value_eq_natCast (show 0 ≤ decimal.exponent by omega), value,
      zpow_zero, mul_one]

end ChatAssistant.Decimal
