import ChatAssistant.Calculator.Solution
import ChatAssistant.Proofs.Pattern.Language

/-!
The forms of a question, and when the calculator knows a question by its form. A text of none of
the forms asks for plain arithmetic, whatever its words are.
-/

namespace ChatAssistant.Calculator

open Pattern Text

@[simp]
theorem accepts_spelled (word : String) (text : List Char) :
    (spelled word).Accepts text ↔ text = word.toList := by
  rw [spelled, Accepts, List.map_id, List.map_id]

theorem mentions_iff (word : String) (text : List Char) :
    mentions word text = true ↔ word.toList <:+: text := by
  rw [mentions, occursIn_iff]
  constructor
  · rintro ⟨found, inside, accepted⟩
    rw [← (accepts_spelled word found).mp accepted]
    exact inside
  · intro inside
    exact ⟨word.toList, inside, (accepts_spelled word _).mpr rfl⟩

/-- Somewhere in the text the pieces of the form stand one behind the other. -/
def HasForm (text : List Char) (form : List Piece) : Prop :=
  ∃ found operands, found <:+: text ∧ Fills form found operands

theorem hasForm_iff (text : List Char) (form : List Piece) :
    HasForm text form ↔ ∃ operands, operands? form text = some operands := by
  constructor
  · rintro ⟨found, operands, inside, filled⟩
    exact Option.isSome_iff_exists.mp (isSome_operands? inside filled)
  · rintro ⟨operands, met⟩
    obtain ⟨found, inside, filled⟩ := fills_of_operands? met
    exact ⟨found, operands, inside, filled⟩

theorem fills_squareRootForm {found : List Char} {operands : List (List Char)}
    (filled : Fills squareRootForm found operands) :
    ∃ before name between radicand, found = before ++ name ++ between ++ radicand ∧
      (name = "корень".toList ∨ name = "sqrt".toList) ∧ operands = [radicand] ∧
      IsNumeral radicand := by
  rw [squareRootForm, fills_skip_operand] at filled
  obtain ⟨_, radicand, rfl, named, numeral, rfl⟩ := filled
  rcases named with ⟨_, mark, rfl, ⟨_, blanks, rfl, ⟨before, name, rfl, _, spelt⟩, _⟩, _⟩ |
      ⟨_, blanks, rfl, ⟨_, mark, rfl, ⟨name, more, rfl, spelt, _⟩, _⟩, _⟩
  · refine ⟨before, name, blanks ++ mark, radicand, ?_, Or.inl ?_, rfl, numeral⟩
    · simp only [List.append_assoc]
    · exact (accepts_spelled _ _).mp spelt
  · refine ⟨[], name, more ++ mark ++ blanks, radicand, ?_, Or.inr ?_, rfl, numeral⟩
    · simp only [List.nil_append, List.append_assoc]
    · exact (accepts_spelled _ _).mp spelt

theorem fills_factorialSignForm {found : List Char} {operands : List (List Char)}
    (filled : Fills factorialSignForm found operands) :
    ∃ number between, found = number ++ between ++ "!".toList ∧ operands = [number] ∧
      number ≠ [] ∧ AllDigits number := by
  rw [factorialSignForm, fills_operand_skip] at filled
  obtain ⟨number, _, rfl, ⟨some, digits⟩, rfl, between, sign, rfl, _, spelt⟩ := filled
  rw [accepts_spelled] at spelt
  subst spelt
  exact ⟨number, between, (List.append_assoc _ _ _).symm, rfl, some, digits⟩

theorem fills_factorialWordForm {found : List Char} {operands : List (List Char)}
    (filled : Fills factorialWordForm found operands) :
    ∃ between number, found = "факториал".toList ++ between ++ number ∧ operands = [number] ∧
      number ≠ [] ∧ AllDigits number := by
  rw [factorialWordForm, fills_skip_operand] at filled
  obtain ⟨_, number, rfl, ⟨_, blanks, rfl, ⟨name, ending, rfl, spelt, _⟩, _⟩, ⟨some, digits⟩,
    rfl⟩ := filled
  rw [accepts_spelled] at spelt
  subst spelt
  exact ⟨ending ++ blanks, number, by simp only [List.append_assoc], rfl, some, digits⟩

theorem fills_percentageForm {found : List Char} {operands : List (List Char)}
    (filled : Fills percentageForm found operands) :
    ∃ percent gap name between base, found = percent ++ gap ++ name ++ between ++ base ∧
      (name = "%".toList ∨ name = "процент".toList) ∧
      operands = [percent, base] ∧ IsNumeral percent ∧ IsNumeral base := by
  rw [percentageForm, fills_operand_skip_operand] at filled
  obtain ⟨percent, _, base, rfl, first, rfl, ⟨_, behind, rfl, ⟨_, preposition, rfl, ⟨_, space, rfl,
    ⟨gap, name, rfl, _, named⟩, _⟩, _⟩, _⟩, second⟩ := filled
  rcases named with spelt | ⟨name, ending, rfl, spelt, _⟩
  · refine ⟨percent, gap, name, space ++ preposition ++ behind, base, ?_, Or.inl ?_, rfl,
      first, second⟩
    · simp only [List.append_assoc]
    · exact (accepts_spelled _ _).mp spelt
  · refine ⟨percent, gap, name, ending ++ space ++ preposition ++ behind, base, ?_, Or.inr ?_, rfl,
      first, second⟩
    · simp only [List.append_assoc]
    · exact (accepts_spelled _ _).mp spelt

theorem fills_powerForm {found : List Char} {operands : List (List Char)}
    (filled : Fills powerForm found operands) :
    ∃ base before between exponent,
      found = base ++ before ++ "степени".toList ++ between ++ exponent ∧
      operands = [base, exponent] ∧ IsNumeral base ∧ IsNumeral exponent := by
  rw [powerForm, fills_operand_skip_operand] at filled
  obtain ⟨base, _, exponent, rfl, first, rfl, ⟨_, between, rfl, ⟨before, name, rfl, _, spelt⟩, _⟩,
    second⟩ := filled
  rw [accepts_spelled] at spelt
  subst spelt
  exact ⟨base, before, between, exponent, by simp only [List.append_assoc], rfl, first, second⟩

end ChatAssistant.Calculator
