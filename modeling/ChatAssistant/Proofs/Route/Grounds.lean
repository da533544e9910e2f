import ChatAssistant.Proofs.Pattern.Language
import ChatAssistant.Proofs.Text.Blank
import ChatAssistant.Route

/-!
The grounds on which a text goes to the calculator, said of its characters and not of the patterns
that look for them. Where a pattern asks for a whole number, one digit of it is ground enough.
-/

namespace ChatAssistant.Route

open Pattern Text

def HasOperation (text : List Char) : Prop :=
  ∃ first before sign behind last, first :: (before ++ sign :: (behind ++ [last])) <:+: text ∧
    isDecimalDigit first = true ∧ (∀ char ∈ before, isBlank char = true) ∧
    sign ∈ ['+', '-', '*', '/', '×', '÷'] ∧
    (∀ char ∈ behind, isBlank char = true) ∧ isDecimalDigit last = true

def HasStem (text : List Char) (stem : String) : Prop :=
  ∃ letters, letters <:+: text ∧ letters.map foldCase = stem.toList.map foldCase

def HasPercentage (text : List Char) : Prop :=
  ∃ digit gap letters, digit :: (gap ++ letters) <:+: text ∧
    isDecimalDigit digit = true ∧ (∀ char ∈ gap, isBlank char = true) ∧
    letters.map foldCase = "процент".toList.map foldCase

def IsExpression (text : List Char) : Prop :=
  (∃ char ∈ text, isBlank char = false) ∧
    ∀ char ∈ text, isDecimalDigit char = true ∨ isBlank char = true ∨
      char ∈ ['+', '-', '*', '/', '×', '÷', '(', ')', '.', ',', '%', '^', '=']

theorem occursIn_anyCase_iff (stem : String) (text : List Char) :
    (anyCase stem).occursIn text = true ↔ HasStem text stem :=
  occursIn_iff (anyCase stem) text

theorem any_occursIn_iff (stems : List String) (text : List Char) :
    stems.any (fun stem => (anyCase stem).occursIn text) = true ↔
      ∃ stem ∈ stems, HasStem text stem := by
  rw [List.any_eq_true]
  simp only [occursIn_anyCase_iff]

theorem isOperationSign_iff (char : Char) :
    isOperationSign char = true ↔ char ∈ ['+', '-', '*', '/', '×', '÷'] :=
  List.contains_iff_mem

private theorem exists_last_digit {number : List Char} (some : number ≠ [])
    (digits : AllDigits number) :
    ∃ front last, number = front ++ [last] ∧ isDecimalDigit last = true :=
  ⟨number.dropLast, number.getLast some, (List.dropLast_append_getLast some).symm,
    digits _ (List.getLast_mem some)⟩

private theorem accepts_digit {digit : Char} (isDigit : isDecimalDigit digit = true) :
    (nonemptyRun isDecimalDigit).Accepts [digit] :=
  ⟨List.cons_ne_nil _ _, List.forall_mem_singleton.mpr isDigit⟩

/-- The digits around a sign are the last one of a number and the first one of another. -/
theorem occursIn_operation_iff (text : List Char) :
    operation.occursIn text = true ↔ HasOperation text := by
  rw [occursIn_iff]
  constructor
  · rintro ⟨_, inside, _, right, rfl, ⟨_, behind, rfl, ⟨_, _, rfl, ⟨left, before, rfl,
      ⟨someLeft, digitsLeft⟩, blankBefore⟩, sign, rfl, isSign⟩, blankBehind⟩, someRight,
      digitsRight⟩
    obtain ⟨front, first, rfl, digitFirst⟩ := exists_last_digit someLeft digitsLeft
    obtain ⟨last, rest, rfl⟩ := List.exists_cons_of_ne_nil someRight
    refine ⟨first, before, sign, behind, last, List.IsInfix.trans ⟨front, rest, ?_⟩ inside,
      digitFirst, blankBefore, (isOperationSign_iff sign).mp isSign, blankBehind,
      digitsRight last List.mem_cons_self⟩
    simp only [List.append_assoc, List.cons_append, List.nil_append]
  · rintro ⟨first, before, sign, behind, last, inside, digitFirst, blankBefore, isSign,
      blankBehind, digitLast⟩
    refine ⟨[first] ++ before ++ [sign] ++ behind ++ [last], ?_, _, [last], rfl,
      ⟨_, behind, rfl, ⟨_, [sign], rfl, ⟨[first], before, rfl, accepts_digit digitFirst,
        blankBefore⟩, sign, rfl, (isOperationSign_iff sign).mpr isSign⟩, blankBehind⟩,
      accepts_digit digitLast⟩
    simp only [List.append_assoc, List.singleton_append]
    exact inside

theorem occursIn_percentage_iff (text : List Char) :
    percentage.occursIn text = true ↔ HasPercentage text := by
  rw [occursIn_iff]
  constructor
  · rintro ⟨_, inside, _, letters, rfl, ⟨number, gap, rfl, ⟨some, digits⟩, blank⟩, spelt⟩
    obtain ⟨front, digit, rfl, isDigit⟩ := exists_last_digit some digits
    refine ⟨digit, gap, letters, List.IsInfix.trans ⟨front, [], ?_⟩ inside, isDigit, blank, spelt⟩
    simp only [List.append_assoc, List.cons_append, List.nil_append, List.append_nil]
  · rintro ⟨digit, gap, letters, inside, isDigit, blank, spelt⟩
    exact ⟨_, inside, digit :: gap, letters, rfl,
      ⟨[digit], gap, rfl, accepts_digit isDigit, blank⟩, spelt⟩

theorem isExpressionCharacter_iff (char : Char) :
    isExpressionCharacter char = true ↔ isDecimalDigit char = true ∨ isBlank char = true ∨
      char ∈ ['+', '-', '*', '/', '×', '÷', '(', ')', '.', ',', '%', '^', '='] := by
  have sign : isExpressionSign char = true ↔
      char ∈ ['+', '-', '*', '/', '×', '÷', '(', ')', '.', ',', '%', '^', '='] :=
    List.contains_iff_mem
  rw [isExpressionCharacter, Bool.or_eq_true, Bool.or_eq_true, or_assoc, sign]

/-- White space is no sign, but it may stand around the signs and between them. -/
theorem isBareExpression_iff (text : List Char) :
    isBareExpression text = true ↔ IsExpression text := by
  have visible : (trim text).isEmpty = false ↔ ∃ char ∈ text, isBlank char = false := by
    rw [List.isEmpty_eq_false_iff, ne_eq, trim_eq_nil_iff]
    simp only [not_forall, Bool.not_eq_true, exists_prop]
  have allowed : (trim text).all isExpressionCharacter = true ↔
      ∀ char ∈ text, isExpressionCharacter char = true := by
    rw [List.all_eq_true]
    apply forall_mem_trim_iff
    intro char blank
    exact (isExpressionCharacter_iff char).mpr (Or.inr (Or.inl blank))
  rw [isBareExpression, Bool.and_eq_true, Bool.not_eq_true', visible, allowed]
  simp only [IsExpression, isExpressionCharacter_iff]

def HasGround (text : List Char) : Prop :=
  HasOperation text ∨
    (∃ stem ∈ ["сколько", "вычисл", "реш", "посчита"], HasStem text stem) ∨
    HasPercentage text ∨
    (∃ stem ∈ ["корень", "факториал", "степен"], HasStem text stem) ∨
    IsExpression text

theorem ofCharacters_eq_math_iff (text : List Char) :
    ofCharacters text = .math ↔ HasGround text := by
  have grounds : ofCharacters text = .math ↔
      (operation.occursIn text
        || calculationStems.any (fun stem => (anyCase stem).occursIn text)
        || percentage.occursIn text
        || functionStems.any (fun stem => (anyCase stem).occursIn text)
        || isBareExpression text) = true := by
    rw [ofCharacters]
    split
    · rename_i met
      exact iff_of_true rfl met
    · rename_i unmet
      exact iff_of_false Route.noConfusion unmet
  rw [grounds, Bool.or_eq_true, Bool.or_eq_true, Bool.or_eq_true, Bool.or_eq_true,
    occursIn_operation_iff, any_occursIn_iff, occursIn_percentage_iff, any_occursIn_iff,
    isBareExpression_iff, or_assoc, or_assoc, or_assoc]
  rfl

/-- A text goes to the calculator exactly if it has a sign of operation between two digits, the
beginning of a word for calculating, a digit with the word for percent behind it, or the beginning
of a word for a function, or if it is an expression as a whole. -/
theorem ofText_eq_math_iff (text : String) :
    ofText text = .math ↔
      HasOperation text.toList ∨
      (∃ stem ∈ ["сколько", "вычисл", "реш", "посчита"], HasStem text.toList stem) ∨
      HasPercentage text.toList ∨
      (∃ stem ∈ ["корень", "факториал", "степен"], HasStem text.toList stem) ∨
      IsExpression text.toList :=
  ofCharacters_eq_math_iff text.toList

example : Route.ofText "РЕШИ уравнение" = .math := by decide +kernel

end ChatAssistant.Route
