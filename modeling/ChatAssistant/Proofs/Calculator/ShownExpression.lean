import ChatAssistant.Proofs.Calculator.Words

/-!
The expression that an answer shows. A text of no named form is read character by character: what
has a part in arithmetic is kept, with the signs of handwriting as signs of arithmetic, and all
else goes. What is kept has the same answer by itself.
-/

namespace ChatAssistant.Calculator

open Text

/-- What a written sign, or a letter that looks like one, stands for. -/
def signMeant : Char → Char
  | '×' | 'х' | 'x' => '*'
  | '÷' => '/'
  | char => char

def arithmeticIn (text : List Char) : List Char :=
  ((trim (lowercase text)).map signMeant).filter (· ∈ arithmeticCharacters)

theorem letterTimesReplaced_signReplaced (char : Char) :
    letterTimesReplaced (signReplaced char) = signMeant char := by
  unfold signMeant
  split
  · decide
  · decide
  · decide
  · decide
  · rename_i notCross notLetter notLatin notObelus
    have apart : char ∉ ['×', '÷', 'х', 'x'] := by
      simp only [List.mem_cons, List.not_mem_nil, or_false, not_or]
      exact ⟨notCross, notObelus, notLetter, notLatin⟩
    rw [signReplaced_of_apart apart, letterTimesReplaced_of_apart apart]

theorem isArithmeticCharacter_eq (char : Char) :
    isArithmeticCharacter char = decide (char ∈ arithmeticCharacters) := by
  have parts : ∀ char ∈ arithmeticCharacters, isArithmeticCharacter char = true := by decide
  rw [Bool.eq_iff_iff, decide_eq_true_iff]
  exact ⟨mem_arithmeticCharacters, parts char⟩

/-- That the words are taken away by themselves makes no difference. -/
theorem arithmeticOf_normalized_eq (text : List Char) :
    arithmeticOf (normalized text) = arithmeticIn text := by
  have meant : letterTimesReplaced ∘ signReplaced = signMeant :=
    funext letterTimesReplaced_signReplaced
  rw [normalized, arithmeticOf_eq_filter, List.map_map, meant, arithmeticIn]
  exact List.filter_congr fun char _ => isArithmeticCharacter_eq char

section Shown

variable {text : String}

theorem solveArithmetic_ne_unrecognized (expression : List Char) :
    solveArithmetic text expression ≠ .error .unrecognized := by
  unfold solveArithmetic
  split
  · rintro ⟨⟩
  · split
    · split <;> rintro ⟨⟩
    · split <;> rintro ⟨⟩

theorem remainder_of_arithmetic {expression : List Char}
    (parts : ∀ char ∈ expression, isArithmeticCharacter char = true) :
    remainder expression = expression := by
  have table : ∀ char ∈ arithmeticCharacters, cleaned char = char := by decide
  have same : expression.map cleaned = expression := by
    rw [List.map_congr_left fun char member => table char (mem_arithmeticCharacters
      (parts char member)), List.map_id']
  rw [remainder, same, List.filter_eq_self]
  exact parts

theorem solve_of_arithmetic {expression : List Char} (some : expression ≠ [])
    (parts : ∀ char ∈ expression, isArithmeticCharacter char = true) :
    solve (String.ofList expression) =
      solveArithmetic (String.ofList expression) expression := by
  have plain : ∀ char ∈ expression, isArithmeticCharacter char = true ∨ char = ' ' :=
    fun char member => .inl (parts char member)
  rw [solve_of_utterance (isUtterance_of_plain plain) (unnamed_of_plain plain),
    remainder_of_arithmetic parts, List.isEmpty_eq_false_iff.mpr some,
    if_neg Bool.false_ne_true]

/-- A text of no named form is not understood exactly if no character of arithmetic is in it. If it
has an answer, the answer shows these characters, and they have this answer by themselves. -/
theorem solve_shown (unnamed : named? (normalized text.toList) = none) :
    arithmeticOf (normalized text.toList) = arithmeticIn text.toList ∧
      (solve text = .error .unrecognized ↔ arithmeticIn text.toList = []) ∧
      ∀ solution, solve text = .ok solution →
        solution.explanation =
            "Результат вычисления: " ++ String.ofList (arithmeticIn text.toList) ∧
          solve (String.ofList (arithmeticIn text.toList)) = .ok solution := by
  have answered := solve_of_unnamed unnamed
  rw [arithmeticOf_normalized_eq] at answered
  have parts : ∀ char ∈ arithmeticIn text.toList, isArithmeticCharacter char = true := by
    intro char member
    rw [isArithmeticCharacter_eq]
    exact (List.mem_filter.mp member).2
  have same := arithmeticOf_normalized_eq text.toList
  by_cases none : arithmeticIn text.toList = []
  · rw [none, List.isEmpty_nil, if_pos rfl] at answered
    refine ⟨same, iff_of_true answered none, ?_⟩
    intro solution solved
    rw [answered] at solved
    cases solved
  · rw [List.isEmpty_eq_false_iff.mpr none, if_neg Bool.false_ne_true] at answered
    refine ⟨same, iff_of_false ?_ none, ?_⟩
    · rw [answered]
      exact solveArithmetic_ne_unrecognized _
    · intro solution solved
      rw [answered] at solved
      rw [solve_of_arithmetic none parts]
      refine ⟨?_, solveArithmetic_eq_ok solved⟩
      obtain ⟨_, _, _, _, rfl⟩ := (solveArithmetic_eq_ok_iff _ _ _).mp solved
      rfl

end Shown

theorem solve_shown_question :
    let text := "Сколько будет (7 Х 6) ÷ 4 x 3?"
    let arithmetic := "(7*6)/4*3"
    ∃ solution, named? (normalized text.toList) = none ∧
      arithmeticOf (normalized text.toList) = arithmetic.toList ∧
      (solve text = .error .unrecognized ↔ arithmetic.toList = []) ∧
      solve text = .ok solution ∧
      solution.explanation = "Результат вычисления: " ++ arithmetic ∧
      solve arithmetic = .ok solution := by
  intro text arithmetic
  have unnamed : named? (normalized text.toList) = none := by
    rw [← Option.isNone_iff_eq_none]
    decide
  have isArithmetic : arithmeticIn text.toList = arithmetic.toList := by decide
  obtain ⟨same, unrecognized, shown⟩ := solve_shown unnamed
  rw [isArithmetic] at same unrecognized shown
  have answered : (solve text).toOption.isSome = true := by decide
  cases solved : solve text with
  | error failure =>
      rw [solved] at answered
      cases answered
  | ok solution =>
      obtain ⟨explained, again⟩ := shown solution solved
      rw [String.ofList_toList] at explained again
      rw [solved] at unrecognized
      exact ⟨solution, unnamed, same, unrecognized, rfl, explained, again⟩

end ChatAssistant.Calculator
