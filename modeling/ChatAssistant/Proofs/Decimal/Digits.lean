import ChatAssistant.Decimal.Basic
import Mathlib.Algebra.Ring.Nat

/-!
The digits of a number, and the number that digits stand for, with a point among them or not.
-/

namespace ChatAssistant.Decimal

theorem isDigit_of_mem_digits {number : Nat} {char : Char} (member : char ∈ digits number) :
    char.isDigit = true :=
  Nat.isDigit_of_mem_toDigits (by decide) (by decide) member

theorem digits_of_lt {number : Nat} (small : number < 10) :
    digits number = [Nat.digitChar number] :=
  Nat.toDigits_of_lt_base small

theorem digits_of_le {number : Nat} (large : 10 ≤ number) :
    digits number = digits (number / 10) ++ [Nat.digitChar (number % 10)] :=
  Nat.toDigits_of_base_le (by decide) large

theorem digitValue_digitChar {digit : Nat} (small : digit < 10) :
    digitValue (Nat.digitChar digit) = digit := by
  have values : ∀ digit < 10, digitValue (Nat.digitChar digit) = digit := by decide
  exact values digit small

@[simp]
theorem ofDigits_digits (number : Nat) : ofDigits (digits number) = number := by
  induction number using Nat.strongRecOn with
  | ind number ih =>
      by_cases small : number < 10
      · rw [digits_of_lt small, ofDigits, List.foldl_cons, List.foldl_nil,
          digitValue_digitChar small]
        omega
      · have large : 10 ≤ number := by omega
        have front := ih (number / 10) (by omega)
        rw [ofDigits] at front
        rw [digits_of_le large, ofDigits, List.foldl_append, front, List.foldl_cons,
          List.foldl_nil, digitValue_digitChar (by omega)]
        omega

theorem digits_eq_cons (number : Nat) :
    ∃ first rest, digits number = first :: rest ∧ first.isDigit = true ∧
      (first = '0' → number = 0) := by
  induction number using Nat.strongRecOn with
  | ind number ih =>
      by_cases small : number < 10
      · have digit : (Nat.digitChar number).isDigit = true := by
          rw [Nat.isDigit_digitChar, decide_eq_true small]
        exact ⟨_, _, digits_of_lt small, digit, Nat.digitChar_eq_zero.mp⟩
      · have large : 10 ≤ number := by omega
        obtain ⟨first, rest, front, digit, leading⟩ := ih (number / 10) (by omega)
        refine ⟨first, rest ++ [Nat.digitChar (number % 10)], ?_, digit, ?_⟩
        · rw [digits_of_le large, front, List.cons_append]
        · intro zero
          have none : number / 10 = 0 := leading zero
          omega

theorem head?_digits_ne {number : Nat} (positive : 0 < number) :
    (digits number).head? ≠ some '0' := by
  obtain ⟨first, rest, shape, _, leading⟩ := digits_eq_cons number
  rw [shape]
  intro zero
  have none : number = 0 := leading (Option.some.inj zero)
  omega

theorem digits_ne_nil (number : Nat) : digits number ≠ [] := by
  obtain ⟨first, rest, shape, _⟩ := digits_eq_cons number
  rw [shape]
  exact List.cons_ne_nil first rest

theorem foldl_digits (text : List Char) (start : Nat) :
    text.foldl (fun number char => number * 10 + digitValue char) start =
      start * 10 ^ text.length + ofDigits text := by
  induction text generalizing start with
  | nil =>
      rw [List.foldl_nil, List.length_nil, Nat.pow_zero, Nat.mul_one]
      rfl
  | cons char rest ih =>
      rw [ofDigits, List.foldl_cons, List.foldl_cons, ih, ih, List.length_cons, Nat.pow_succ,
        Nat.zero_mul, Nat.zero_add, Nat.add_mul, Nat.mul_assoc, Nat.mul_comm 10, Nat.add_assoc]

theorem ofDigits_append (front back : List Char) :
    ofDigits (front ++ back) = ofDigits front * 10 ^ back.length + ofDigits back := by
  rw [ofDigits, List.foldl_append, foldl_digits back]
  rfl

@[simp]
theorem length_zeros (count : Nat) : (zeros count).length = count :=
  List.length_replicate

@[simp]
theorem ofDigits_zeros (count : Nat) : ofDigits (zeros count) = 0 := by
  induction count with
  | zero => rfl
  | succ count ih =>
      rw [zeros, List.replicate_succ', ofDigits_append, ← zeros, ih, Nat.zero_mul]
      rfl

theorem isDigit_of_mem_zeros {count : Nat} {char : Char} (member : char ∈ zeros count) :
    char.isDigit = true := by
  rw [List.eq_of_mem_replicate member]
  rfl

theorem digits_mul_ten {number : Nat} (positive : 0 < number) :
    digits (number * 10) = digits number ++ ['0'] := by
  rw [digits_of_le (by omega), Nat.mul_div_cancel _ (by decide), Nat.mul_mod_left]
  rfl

theorem digits_mul_pow {number : Nat} (positive : 0 < number) (count : Nat) :
    digits (number * 10 ^ count) = digits number ++ zeros count := by
  induction count with
  | zero =>
      rw [Nat.pow_zero, Nat.mul_one]
      exact (List.append_nil _).symm
  | succ count ih =>
      have more : 0 < number * 10 ^ count := Nat.mul_pos positive (Nat.pow_pos (by decide))
      rw [Nat.pow_succ, ← Nat.mul_assoc, digits_mul_ten more, ih, List.append_assoc, zeros, zeros,
        List.replicate_succ']

theorem getLast?_digits (number : Nat) :
    (digits number).getLast? = some (Nat.digitChar (number % 10)) := by
  by_cases small : number < 10
  · rw [digits_of_lt small, Nat.mod_eq_of_lt small]
    rfl
  · rw [digits_of_le (by omega), List.getLast?_concat]

theorem ofNumeral?_append {whole fraction : List Char} (nonempty : whole ≠ [])
    (digits : ∀ char ∈ whole ++ fraction.drop 1, char.isDigit = true)
    (point : ∀ char ∈ fraction.head?, char = '.') :
    ofNumeral? (whole ++ fraction) =
      some ⟨ofDigits (whole ++ fraction.drop 1), -(fraction.drop 1).length⟩ := by
  have noPoint : ∀ char ∈ whole, decide (char ≠ '.') = true := by
    intro char member
    apply decide_eq_true
    rintro rfl
    exact absurd (digits '.' (List.mem_append_left _ member)) (by decide)
  have parts : (whole ++ fraction).takeWhile (· ≠ '.') = whole ∧
      (whole ++ fraction).dropWhile (· ≠ '.') = fraction := by
    rw [List.takeWhile_append_of_pos noPoint, List.dropWhile_append_of_pos noPoint]
    cases fraction with
    | nil => exact ⟨List.append_nil whole, rfl⟩
    | cons char places =>
        cases point char rfl
        exact ⟨List.append_nil whole, rfl⟩
  have accepted :
      ((whole ++ fraction.drop 1).all Char.isDigit && !(whole ++ fraction.drop 1).isEmpty) =
        true := by
    rw [Bool.and_eq_true, List.all_eq_true, Bool.not_eq_true', List.isEmpty_eq_false_iff]
    exact ⟨digits, List.append_ne_nil_of_left_ne_nil nonempty _⟩
  unfold ofNumeral?
  dsimp only
  rw [parts.1, parts.2, if_pos accepted]

theorem ofNumeral?_digits {text : List Char} (nonempty : text ≠ [])
    (digits : ∀ char ∈ text, char.isDigit = true) :
    ofNumeral? text = some ⟨ofDigits text, 0⟩ := by
  have noPoint : ∀ char ∈ ([] : List Char).head?, char = '.' := by
    rintro char ⟨⟩
  rw [← List.append_nil text] at digits
  have isRead : ofNumeral? (text ++ []) = some ⟨ofDigits (text ++ []), 0⟩ :=
    ofNumeral?_append nonempty digits noPoint
  rw [List.append_nil] at isRead
  exact isRead

theorem ofNumeral?_point {whole places : List Char} (nonempty : whole ≠ [])
    (digits : ∀ char ∈ whole ++ places, char.isDigit = true) :
    ofNumeral? (whole ++ '.' :: places) =
      some ⟨ofDigits (whole ++ places), -places.length⟩ := by
  have point : ∀ char ∈ ('.' :: places).head?, char = '.' := by
    rintro char ⟨⟩
    rfl
  exact ofNumeral?_append nonempty digits point

end ChatAssistant.Decimal
