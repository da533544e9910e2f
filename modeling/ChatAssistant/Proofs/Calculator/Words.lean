import ChatAssistant.Proofs.Arithmetic.DivisorText
import ChatAssistant.Proofs.Calculator.Cleaning

/-!
Words around an expression. They leave nothing behind and change no answer, but for the letter that
stands for a multiplication sign: in a word, too, it is left as one.
-/

namespace ChatAssistant.Calculator

open Text

/-! ### Words and the spaces between them -/

section Spaces

variable {part : List Char}

theorem exists_isInfix_of_intercalate {words : List (List Char)} (apart : ' ' ∉ part)
    (some : part ≠ []) (inside : part <:+: [' '].intercalate words) :
    ∃ word ∈ words, part <:+: word := by
  induction words with
  | nil =>
      exact absurd (List.infix_nil.mp inside) some
  | cons word words ih =>
      cases words with
      | nil =>
          rw [List.intercalate_singleton] at inside
          exact ⟨word, List.mem_cons_self, inside⟩
      | cons next words =>
          rw [List.intercalate_cons_cons, List.append_assoc, List.singleton_append] at inside
          rcases isInfix_beside apart inside with here | later
          · exact ⟨word, List.mem_cons_self, here⟩
          · obtain ⟨other, member, found⟩ := ih later
            exact ⟨other, List.mem_cons_of_mem word member, found⟩

end Spaces

def spoken (words : List (List Char)) : List Char :=
  [' '].intercalate words

theorem forall_mem_spoken_iff {P : Char → Prop} (space : P ' ') (words : List (List Char)) :
    (∀ char ∈ spoken words, P char) ↔ ∀ word ∈ words, ∀ char ∈ word, P char := by
  induction words with
  | nil => exact iff_of_true (List.forall_mem_nil _) (List.forall_mem_nil _)
  | cons word words ih =>
      rw [List.forall_mem_cons, ← ih]
      cases words with
      | nil =>
          rw [spoken, spoken, List.intercalate_singleton]
          exact (and_iff_left (List.forall_mem_nil _)).symm
      | cons next words =>
          rw [spoken, List.intercalate_cons_cons, List.append_assoc, List.singleton_append,
            List.forall_mem_append, List.forall_mem_cons]
          exact and_congr_right fun _ => and_iff_right space

/-! ### What words leave behind -/

def isTimesLetter (char : Char) : Bool :=
  char = 'х' || char = 'Х'

theorem cleaned_times {char : Char} (isTimes : isTimesLetter char = true) : cleaned char = '*' := by
  have letters : ∀ char ∈ ['х', 'Х'], cleaned char = '*' := by decide
  rcases Bool.or_eq_true_iff.mp isTimes with small | capital
  · exact letters char (of_decide_eq_true small ▸ List.mem_cons_self)
  · rw [of_decide_eq_true capital]
    exact letters 'Х' (List.mem_cons_of_mem _ List.mem_cons_self)

theorem not_arithmetic_of_letter {char : Char} (letter : isCyrillicLetter char = true)
    (notTimes : isTimesLetter char = false) : isArithmeticCharacter (cleaned char) = false := by
  have beyond := le_toLower_of_cyrillic letter
  have apart : toLower char ∉ ['×', '÷', 'х', 'x'] := by
    have others : ∀ char ∈ ['×', '÷', 'х', 'x'], char = 'х' ∨ char.toNat < 0x400 := by decide
    intro member
    rcases others _ member with isTimes | below
    · rcases (toLower_eq_times_iff char).mp isTimes with rfl | rfl
      · cases notTimes
      · cases notTimes
    · omega
  rw [cleaned, signReplaced_of_apart apart, letterTimesReplaced_of_apart apart, ← Bool.not_eq_true]
  intro isPart
  have below := lt_of_arithmetic isPart
  omega

theorem remainder_of_letters {text : List Char}
    (letters : ∀ char ∈ text, isCyrillicLetter char = true ∨ char = ' ') :
    remainder text = List.replicate (text.countP isTimesLetter) '*' := by
  induction text with
  | nil => rfl
  | cons char text ih =>
      rw [List.forall_mem_cons] at letters
      have rest := ih letters.2
      rw [remainder] at rest ⊢
      rw [List.map_cons, List.countP_cons]
      cases isTimes : isTimesLetter char with
      | true =>
          rw [cleaned_times isTimes, List.filter_cons_of_pos (by decide), rest, if_pos rfl,
            List.replicate_succ]
      | false =>
          have erased : ¬isArithmeticCharacter (cleaned char) = true := by
            rw [Bool.not_eq_true]
            rcases letters.1 with letter | rfl
            · exact not_arithmetic_of_letter letter isTimes
            · decide
          rw [List.filter_cons_of_neg erased, rest, if_neg Bool.false_ne_true, Nat.add_zero]

/-! ### Signs of multiplication at the ends of an expression -/

theorem read?_times_before (text : List Char) : Arithmetic.read? ('*' :: text) = none := by
  have unread : Arithmetic.readChain (Arithmetic.readOperand (Arithmetic.nestingLimit + 1))
      (('*' :: text).length + 1) ('*' :: text) = none := rfl
  rw [Arithmetic.read?, unread]
  split <;> rfl

theorem read?_times_behind (text : List Char) : Arithmetic.read? (text ++ ['*']) = none := by
  cases isRead : Arithmetic.read? (text ++ ['*']) with
  | none => rfl
  | some chain =>
      obtain ⟨before, last, split, closes⟩ := Arithmetic.endsOperand_of_read? isRead
      cases List.append_inj_right' split rfl
      rcases closes with numeral | closing
      · cases numeral
      · cases closing

/-! ### Answers to spoken texts -/

theorem solve_of_unnamed {text : String} (unnamed : named? (normalized text.toList) = none) :
    solve text =
      if (arithmeticOf (normalized text.toList)).isEmpty then .error .unrecognized
      else solveArithmetic text (arithmeticOf (normalized text.toList)) := by
  rw [solve, Question.ofText?, questionIn_eq, unnamed, Option.none_or, arithmetic?]
  cases (arithmeticOf (normalized text.toList)).isEmpty with
  | true => rw [if_pos rfl, if_pos rfl]
  | false =>
      rw [if_neg Bool.false_ne_true, if_neg Bool.false_ne_true]
      rfl

theorem solve_of_utterance {text : List Char} (utterance : IsUtterance text)
    (unnamed : ∀ stem ∈ namingStems, ¬stem.toList <:+: text.map toLower) :
    solve (String.ofList text) =
      if (remainder text).isEmpty then .error .unrecognized
      else solveArithmetic (String.ofList text) (remainder text) := by
  have noForm : named? (normalized (String.ofList text).toList) = none := by
    rw [String.toList_ofList]
    exact utterance.named?_eq_none unnamed
  rw [solve_of_unnamed noForm, String.toList_ofList, arithmeticOf_normalized utterance.plain]

theorem solveArithmetic_eq_ok {first second : String} {expression : List Char}
    {solution : Solution} (solved : solveArithmetic first expression = .ok solution) :
    solveArithmetic second expression = .ok solution := by
  rw [solveArithmetic_eq_ok_iff] at solved ⊢
  exact solved

theorem solveArithmetic_of_unread {text : String} {expression : List Char}
    (unread : Arithmetic.read? expression = none) :
    solveArithmetic text expression = .error (.unevaluable text) := by
  rw [solveArithmetic, Arithmetic.evaluate?, unread]
  rfl

section Spoken

variable {words : List (List Char)} {expression text : List Char}

def SpokenAround (words : List (List Char)) (expression text : List Char) : Prop :=
  text = spoken words ++ ' ' :: expression ∨ text = expression ++ ' ' :: spoken words

theorem letters_of_spoken (letters : ∀ word ∈ words, ∀ char ∈ word, isCyrillicLetter char = true) :
    ∀ char ∈ spoken words, isCyrillicLetter char = true ∨ char = ' ' := by
  rw [forall_mem_spoken_iff (.inr rfl)]
  intro word member char inside
  exact .inl (letters word member char inside)

theorem isUtterance_of_letters {part : List Char}
    (letters : ∀ char ∈ part, isCyrillicLetter char = true ∨ char = ' ') : IsUtterance part :=
  fun char member => (letters char member).imp_right .inl

theorem isUtterance_of_plain {part : List Char}
    (plain : ∀ char ∈ part, isArithmeticCharacter char = true ∨ char = ' ') : IsUtterance part :=
  fun char member => .inr (plain char member).symm

theorem letters_of_stem {stem : String} (isStem : stem ∈ namingStems) :
    stem.toList ≠ [] ∧ ∀ char ∈ stem.toList,
      toLower ' ' ≠ char ∧ isArithmeticCharacter char = false := by
  have table : ∀ stem ∈ namingStems, stem.toList ≠ [] ∧ ∀ char ∈ stem.toList,
      toLower ' ' ≠ char ∧ isArithmeticCharacter char = false := by
    decide
  exact table stem isStem

theorem unnamed_of_plain (plain : ∀ char ∈ text, isArithmeticCharacter char = true ∨ char = ' ') :
    ∀ stem ∈ namingStems, ¬stem.toList <:+: text.map toLower := by
  intro stem isStem inside
  obtain ⟨some, letters⟩ := letters_of_stem isStem
  obtain ⟨first, rest, split⟩ := List.exists_cons_of_ne_nil some
  have inStem : first ∈ stem.toList := split ▸ List.mem_cons_self
  obtain ⟨char, member, lowered⟩ := List.mem_map.mp (inside.subset inStem)
  rcases plain char member with isPart | rfl
  · rw [← lowered, toLower_of_arithmetic isPart] at inStem
    rw [(letters char inStem).2] at isPart
    cases isPart
  · exact (letters first inStem).1 lowered

theorem unnamed_of_spokenAround
    (letters : ∀ word ∈ words, ∀ char ∈ word, isCyrillicLetter char = true)
    (unnamed : ∀ word ∈ words, ∀ stem ∈ namingStems, mentions stem (lowercase word) = false)
    (plain : ∀ char ∈ expression, isArithmeticCharacter char = true ∨ char = ' ')
    (around : SpokenAround words expression text) :
    ∀ stem ∈ namingStems, ¬stem.toList <:+: text.map toLower := by
  intro stem isStem inside
  obtain ⟨some, stemLetters⟩ := letters_of_stem isStem
  obtain ⟨origin, inText, image⟩ := List.infix_map_iff.mp inside
  have originSome : origin ≠ [] := by
    rintro rfl
    exact some image
  have apart : ' ' ∉ origin := by
    intro member
    have lowered : toLower ' ' ∈ stem.toList := by
      rw [image]
      exact List.mem_map_of_mem member
    exact (stemLetters _ lowered).1 rfl
  have notInExpression : ¬origin <:+: expression := by
    intro inExpression
    apply unnamed_of_plain plain stem isStem
    rw [image]
    exact List.IsInfix.map toLower inExpression
  -- A stem has no space in it, so it is on one side of the space between words and expression.
  have inSpoken : origin <:+: spoken words := by
    rcases around with rfl | rfl
    · exact (isInfix_beside apart inText).resolve_right notInExpression
    · exact (isInfix_beside apart inText).resolve_left notInExpression
  obtain ⟨word, member, inWord⟩ := exists_isInfix_of_intercalate apart originSome inSpoken
  have mentioned : mentions stem (lowercase word) = true := by
    have wordPlain := (isUtterance_of_letters fun char inside =>
      .inl (letters word member char inside)).plain
    rw [mentions_iff, lowercase_eq_map wordPlain, image]
    exact List.IsInfix.map toLower inWord
  rw [unnamed word member stem isStem] at mentioned
  cases mentioned

theorem isUtterance_of_spokenAround
    (letters : ∀ word ∈ words, ∀ char ∈ word, isCyrillicLetter char = true)
    (plain : ∀ char ∈ expression, isArithmeticCharacter char = true ∨ char = ' ')
    (around : SpokenAround words expression text) : IsUtterance text := by
  have first := isUtterance_of_letters (letters_of_spoken letters)
  have second := isUtterance_of_plain plain
  have space : IsUtterance [' '] :=
    isUtterance_of_letters (List.forall_mem_singleton.mpr (.inr rfl))
  rcases around with rfl | rfl
  · exact first.append (space.append second)
  · exact second.append (space.append first)

/-- The signs that the words leave behind stand at one end of the expression. -/
theorem remainder_of_spokenAround
    (letters : ∀ word ∈ words, ∀ char ∈ word, isCyrillicLetter char = true)
    (around : SpokenAround words expression text) {count : Nat}
    (counted : (spoken words).countP isTimesLetter = count) :
    remainder text = List.replicate count '*' ++ remainder expression ∨
      remainder text = remainder expression ++ List.replicate count '*' := by
  have signs := remainder_of_letters (letters_of_spoken letters)
  have space : remainder [' '] = [] := by decide
  rw [counted] at signs
  rcases around with rfl | rfl
  · left
    rw [remainder_append, ← List.singleton_append, remainder_append, signs, space, List.nil_append]
  · right
    rw [remainder_append, ← List.singleton_append, remainder_append, signs, space, List.nil_append]

theorem read?_of_spokenAround
    (letters : ∀ word ∈ words, ∀ char ∈ word, isCyrillicLetter char = true)
    (around : SpokenAround words expression text)
    (times : (spoken words).countP isTimesLetter ≠ 0) :
    remainder text ≠ [] ∧ Arithmetic.read? (remainder text) = none := by
  obtain ⟨count, counted⟩ := Nat.exists_eq_succ_of_ne_zero times
  rcases remainder_of_spokenAround letters around counted with before | behind
  · rw [before, List.replicate_succ, List.cons_append]
    exact ⟨List.cons_ne_nil _ _, read?_times_before _⟩
  · rw [behind, List.replicate_succ', ← List.append_assoc]
    exact ⟨List.append_ne_nil_of_right_ne_nil _ (List.cons_ne_nil _ _), read?_times_behind _⟩

theorem countP_spoken_eq_zero_iff (words : List (List Char)) :
    (spoken words).countP isTimesLetter = 0 ↔
      ¬∃ word ∈ words, ∃ char ∈ word, isTimesLetter char = true := by
  rw [List.countP_eq_zero, forall_mem_spoken_iff (by decide)]
  simp only [not_exists, not_and]

/-- Words around an expression change its answer exactly if the letter that stands for a
multiplication sign is in one of them; then the text has no value. -/
theorem solve_spokenAround
    (letters : ∀ word ∈ words, ∀ char ∈ word, isCyrillicLetter char = true)
    (unnamed : ∀ word ∈ words, ∀ stem ∈ namingStems, mentions stem (lowercase word) = false)
    (plain : ∀ char ∈ expression, isArithmeticCharacter char = true ∨ char = ' ')
    {solution : Solution} (solved : solve (String.ofList expression) = .ok solution)
    (around : SpokenAround words expression text) :
    solve (String.ofList text) =
      if ∃ word ∈ words, ∃ char ∈ word, isTimesLetter char = true then
        .error (.unevaluable (String.ofList text))
      else .ok solution := by
  have alone := solve_of_utterance (isUtterance_of_plain plain) (unnamed_of_plain plain)
  have whole := solve_of_utterance (isUtterance_of_spokenAround letters plain around)
    (unnamed_of_spokenAround letters unnamed plain around)
  rw [solved] at alone
  by_cases counted : (spoken words).countP isTimesLetter = 0
  · rw [if_neg ((countP_spoken_eq_zero_iff words).mp counted), whole]
    have same : remainder text = remainder expression := by
      have remainders := remainder_of_spokenAround letters around counted
      rw [List.replicate_zero, List.nil_append, List.append_nil, or_self] at remainders
      exact remainders
    rw [same]
    split at alone
    · cases alone
    · rename_i some
      rw [if_neg some]
      exact solveArithmetic_eq_ok alone.symm
  · have times := not_not.mp (mt (countP_spoken_eq_zero_iff words).mpr counted)
    obtain ⟨some, unread⟩ := read?_of_spokenAround letters around counted
    rw [if_pos times, whole, List.isEmpty_eq_false_iff.mpr some]
    exact solveArithmetic_of_unread unread

end Spoken

theorem solve_spokenAround_question :
    let words := ["сколько".toList, "будет".toList]
    let text := "сколько будет 7 * 6".toList
    ∃ solution, solve (String.ofList "7 * 6".toList) = .ok solution ∧
      (∀ word ∈ words, ∀ char ∈ word, isCyrillicLetter char = true) ∧
      (∀ word ∈ words, ∀ stem ∈ namingStems, mentions stem (lowercase word) = false) ∧
      (∀ char ∈ "7 * 6".toList, isArithmeticCharacter char = true ∨ char = ' ') ∧
      SpokenAround words "7 * 6".toList text ∧
      solve (String.ofList text) =
        if ∃ word ∈ words, ∃ char ∈ word, isTimesLetter char = true then
          .error (.unevaluable (String.ofList text))
        else .ok solution := by
  intro words text
  have answered : (solve (String.ofList "7 * 6".toList)).toOption.isSome = true := by
    decide
  cases solved : solve (String.ofList "7 * 6".toList) with
  | error failure =>
      rw [solved] at answered
      cases answered
  | ok solution =>
      have letters : ∀ word ∈ words, ∀ char ∈ word, isCyrillicLetter char = true := by
        decide
      have unnamed : ∀ word ∈ words, ∀ stem ∈ namingStems,
          mentions stem (lowercase word) = false := by
        decide
      have plain : ∀ char ∈ "7 * 6".toList, isArithmeticCharacter char = true ∨ char = ' ' := by
        decide
      have around : SpokenAround words "7 * 6".toList text := .inl (by decide)
      exact ⟨solution, rfl, letters, unnamed, plain, around,
        solve_spokenAround letters unnamed plain solved around⟩

/-- Bread keeps the calculator from an answer. -/
theorem solve_bread :
    (∃ solution, solve "2+2" = .ok solution) ∧
      (∀ char ∈ "хлеб".toList, isCyrillicLetter char = true) ∧
      (∀ stem ∈ namingStems, mentions stem (lowercase "хлеб".toList) = false) ∧
      solve "хлеб 2+2" = .error (.unevaluable "хлеб 2+2") := by
  have answered : (solve "2+2").toOption.isSome = true := by decide
  refine ⟨?_, by decide, by decide, ?_⟩
  · cases solved : solve "2+2" with
    | error failure =>
        rw [solved] at answered
        cases answered
    | ok solution => exact ⟨solution, rfl⟩
  · have asked : Question.ofText? "хлеб 2+2" = some (.arithmetic ('*' :: "2+2".toList)) := by rfl
    rw [solve, asked]
    dsimp only [Question.solve]
    exact solveArithmetic_of_unread (read?_times_before _)

end ChatAssistant.Calculator
