import ChatAssistant.Proofs.Route.Grounds
import ChatAssistant.Proofs.Text.LetterCase

/-!
The route of a text does not depend on the case of its letters. Of all the characters that lower case
changes none has a part in the route but the letters of the stems, and these are met in either case.
-/

namespace ChatAssistant.Route

open Text

theorem isCaseless_of_operationSign {sign : Char} (isSign : sign ∈ ['+', '-', '*', '/', '×', '÷']) :
    IsCaseless sign := by
  have signs : ∀ sign ∈ ['+', '-', '*', '/', '×', '÷'], signCodePoints.has sign = true := by decide
  exact isCaseless_of_sign (signs sign isSign)

theorem isCaseless_of_expressionCharacter {char : Char}
    (allowed : isDecimalDigit char = true ∨ isBlank char = true ∨
      char ∈ ['+', '-', '*', '/', '×', '÷', '(', ')', '.', ',', '%', '^', '=']) :
    IsCaseless char := by
  have signs : ∀ sign ∈ ['+', '-', '*', '/', '×', '÷', '(', ')', '.', ',', '%', '^', '='],
      signCodePoints.has sign = true := by
    decide
  rcases allowed with digit | blank | sign
  · exact isCaseless_of_digit digit
  · exact isCaseless_of_blank blank
  · exact isCaseless_of_sign (signs char sign)

theorem hasOperation_lowercase (text : List Char) :
    HasOperation (lowercase text) ↔ HasOperation text := by
  unfold HasOperation
  apply exists_congr
  intro first
  apply exists_congr
  intro before
  apply exists_congr
  intro sign
  apply exists_congr
  intro behind
  apply exists_congr
  intro last
  apply and_congr_left
  rintro ⟨digitFirst, blankBefore, isSign, blankBehind, digitLast⟩
  apply isInfix_lowercase_iff
  rw [List.forall_mem_cons, List.forall_mem_append, List.forall_mem_cons, List.forall_mem_append,
    List.forall_mem_singleton]
  exact ⟨isCaseless_of_digit digitFirst,
    fun char member => isCaseless_of_blank (blankBefore char member),
    isCaseless_of_operationSign isSign,
    fun char member => isCaseless_of_blank (blankBehind char member),
    isCaseless_of_digit digitLast⟩

theorem hasStem_lowercase (text : List Char) {stem : String}
    (cyrillic : IsCyrillicWord stem.toList) :
    HasStem (lowercase text) stem ↔ HasStem text stem :=
  exists_isInfix_lowercase_iff text (List.forall_mem_nil _) cyrillic

theorem hasPercentage_lowercase (text : List Char) :
    HasPercentage (lowercase text) ↔ HasPercentage text := by
  have cyrillic : IsCyrillicWord "процент".toList := by decide
  have spelt_iff : ∀ digit gap, isDecimalDigit digit = true → (∀ char ∈ gap, isBlank char = true) →
      ((∃ letters, digit :: gap ++ letters <:+: lowercase text ∧
        letters.map foldCase = "процент".toList.map foldCase) ↔
      ∃ letters, digit :: gap ++ letters <:+: text ∧
        letters.map foldCase = "процент".toList.map foldCase) := by
    intro digit gap isDigit blank
    apply exists_isInfix_lowercase_iff text _ cyrillic
    rw [List.forall_mem_cons]
    exact ⟨isCaseless_of_digit isDigit, fun char member => isCaseless_of_blank (blank char member)⟩
  constructor
  · rintro ⟨digit, gap, letters, inside, isDigit, blank, spelt⟩
    obtain ⟨letters, inside, spelt⟩ :=
      (spelt_iff digit gap isDigit blank).mp ⟨letters, inside, spelt⟩
    exact ⟨digit, gap, letters, inside, isDigit, blank, spelt⟩
  · rintro ⟨digit, gap, letters, inside, isDigit, blank, spelt⟩
    obtain ⟨letters, inside, spelt⟩ :=
      (spelt_iff digit gap isDigit blank).mpr ⟨letters, inside, spelt⟩
    exact ⟨digit, gap, letters, inside, isDigit, blank, spelt⟩

theorem isExpression_lowercase (text : List Char) :
    IsExpression (lowercase text) ↔ IsExpression text := by
  constructor
  · intro expression
    have same := lowercase_eq_self_of_caseless
      (fun char member => isCaseless_of_expressionCharacter (expression.2 char member))
    rw [same] at expression
    exact expression
  · intro expression
    have same := lowercase_of_caseless
      (fun char member => isCaseless_of_expressionCharacter (expression.2 char member))
    rw [same]
    exact expression

theorem any_occursIn_lowercase {stems : List String} (text : List Char)
    (cyrillic : ∀ stem ∈ stems, IsCyrillicWord stem.toList) :
    stems.any (fun stem => (anyCase stem).occursIn (lowercase text)) =
      stems.any (fun stem => (anyCase stem).occursIn text) := by
  rw [Bool.eq_iff_iff, any_occursIn_iff, any_occursIn_iff]
  apply exists_congr
  intro stem
  apply and_congr_right
  intro member
  exact hasStem_lowercase text (cyrillic stem member)

theorem ofCharacters_lowercase (text : List Char) :
    ofCharacters (lowercase text) = ofCharacters text := by
  have operations : operation.occursIn (lowercase text) = operation.occursIn text := by
    rw [Bool.eq_iff_iff, occursIn_operation_iff, occursIn_operation_iff, hasOperation_lowercase]
  have percentages : percentage.occursIn (lowercase text) = percentage.occursIn text := by
    rw [Bool.eq_iff_iff, occursIn_percentage_iff, occursIn_percentage_iff,
      hasPercentage_lowercase]
  have expressions : isBareExpression (lowercase text) = isBareExpression text := by
    rw [Bool.eq_iff_iff, isBareExpression_iff, isBareExpression_iff, isExpression_lowercase]
  have calculationWords : ∀ stem ∈ calculationStems, IsCyrillicWord stem.toList := by
    decide
  have functionWords : ∀ stem ∈ functionStems, IsCyrillicWord stem.toList := by
    decide
  have calculations := any_occursIn_lowercase text calculationWords
  have functions := any_occursIn_lowercase text functionWords
  unfold ofCharacters
  rw [operations, calculations, percentages, functions, expressions]

/-- A text goes where it goes in lower case, and so do all texts that are alike in lower case. -/
theorem ofText_lowercase (text : String) :
    ofText (String.ofList (lowercase text.toList)) = ofText text ∧
    ∀ other : String, lowercase other.toList = lowercase text.toList →
      ofText other = ofText text := by
  have lowered : ofText (String.ofList (lowercase text.toList)) = ofText text := by
    rw [ofText, String.toList_ofList]
    exact ofCharacters_lowercase text.toList
  refine ⟨lowered, ?_⟩
  intro other alike
  rw [ofText, ← ofCharacters_lowercase, alike, ofCharacters_lowercase]
  rfl

theorem ofText_lowercase_capitals :
    lowercase "вычисли 2".toList = lowercase "ВЫЧИСЛИ 2".toList ∧
      ofText "вычисли 2" = ofText "ВЫЧИСЛИ 2" := by
  have alike : lowercase "вычисли 2".toList = lowercase "ВЫЧИСЛИ 2".toList := by decide
  exact ⟨alike, (ofText_lowercase "ВЫЧИСЛИ 2").2 "вычисли 2" alike⟩

end ChatAssistant.Route
