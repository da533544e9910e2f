import ChatAssistant.Calculator.Solution
import ChatAssistant.Proofs.Calculator.WordingOperands
import ChatAssistant.Proofs.Calculator.WordingWords

/-!
Every wording is answered as what it asks: with just its operands, whatever the numerals, the white
space and the words before it are.
-/

namespace ChatAssistant.Calculator

open Text Pattern

/-! ### The form in which a wording is read -/

/-- The character stays as it is in the form in which a text is read. -/
def IsSettled (char : Char) : Prop :=
  toLower char = char ∧ char ∉ ['Σ', 'İ', '×', '÷']

theorem normalized_of_settled {text : List Char} (settled : ∀ char ∈ text, IsSettled char) :
    normalized text = trim text := by
  have plain : ∀ char ∈ text, char ≠ 'Σ' ∧ char ≠ 'İ' := by
    intro char member
    have apart := (settled char member).2
    simp only [List.mem_cons, List.not_mem_nil, or_false, not_or] at apart
    exact ⟨apart.1, apart.2.1⟩
  have lowered : text.map toLower = text := by
    rw [List.map_congr_left fun char member => (settled char member).1, List.map_id']
  have kept : (trim text).map signReplaced = trim text := by
    have same : ∀ char ∈ trim text, signReplaced char = char := by
      intro char member
      have apart := (settled char ((trim_isInfix text).subset member)).2
      simp only [List.mem_cons, List.not_mem_nil, or_false, not_or] at apart
      rw [signReplaced, if_neg apart.2.2.1, if_neg apart.2.2.2]
    rw [List.map_congr_left same, List.map_id']
  rw [normalized, lowercase_eq_map plain, lowered, kept]

theorem isSettled_of_link {char : Char} (isLink : Wording.IsLinkCharacter char) :
    IsSettled char := by
  have others : ∀ char ∈ ['Σ', 'İ', '×', '÷'], ¬Wording.IsLinkCharacter char := by
    decide
  refine ⟨?_, fun member => others char member isLink⟩
  rcases isLink with small | blank | rfl | rfl
  · exact small.2
  · exact toLower_of_blank blank
  · decide
  · decide

theorem isSettled_of_numeral {char : Char} (isPart : Arithmetic.isNumeralCharacter char = true) :
    IsSettled char := by
  have table : ∀ char ∈ arithmeticCharacters,
      toLower char = char ∧ char ∉ ['Σ', 'İ', '×', '÷'] := by
    decide
  apply table char
  apply mem_arithmeticCharacters
  rcases Bool.or_eq_true_iff.mp isPart with digit | point
  · exact Bool.or_eq_true_iff.mpr (.inl digit)
  · rw [of_decide_eq_true point]
    decide

theorem Wording.isSettled (wording : Wording) : ∀ char ∈ wording.text, IsSettled char :=
  wording.forall_mem_text
    (fun char member => isSettled_of_link (wording.isLinkCharacter_of_mem char member))
    fun _ isPart => isSettled_of_numeral isPart

theorem LeadIn.isSettled (lead : LeadIn) : ∀ char ∈ lead.text, IsSettled char :=
  fun char member => isSettled_of_link ((lead.characters char member).imp_right .inl)

def LeadIn.trimmed (lead : LeadIn) : LeadIn where
  text := lead.text.dropWhile isBlank
  characters char member := lead.characters char ((List.dropWhile_suffix isBlank).subset member)
  ends last isLast := by
    refine lead.ends last ?_
    obtain ⟨front, split⟩ := List.dropWhile_suffix (l := lead.text) isBlank
    rw [← split, List.getLast?_append, isLast]
    rfl
  unnamed stem isStem inside :=
    lead.unnamed stem isStem (inside.trans (List.dropWhile_suffix isBlank).isInfix)

/-! ### The two ends of a wording -/

def BeginsVisibly (text : List Char) : Prop :=
  ∃ first rest, text = first :: rest ∧ isBlank first = false

def EndsVisibly (text : List Char) : Prop :=
  ∃ before last, text = before ++ [last] ∧ isBlank last = false

section Ends

variable {text : List Char}

theorem BeginsVisibly.append (begins : BeginsVisibly text) (rest : List Char) :
    BeginsVisibly (text ++ rest) := by
  obtain ⟨first, more, rfl, visible⟩ := begins
  exact ⟨first, more ++ rest, rfl, visible⟩

theorem EndsVisibly.append (ends : EndsVisibly text) (front : List Char) :
    EndsVisibly (front ++ text) := by
  obtain ⟨before, last, rfl, visible⟩ := ends
  exact ⟨front ++ before, last, (List.append_assoc _ _ _).symm, visible⟩

theorem visible_of_forall (nonempty : text ≠ []) (visible : ∀ char ∈ text, isBlank char = false) :
    BeginsVisibly text ∧ EndsVisibly text := by
  constructor
  · obtain ⟨first, rest, rfl⟩ := List.exists_cons_of_ne_nil nonempty
    exact ⟨first, rest, rfl, visible first List.mem_cons_self⟩
  · exact ⟨text.dropLast, text.getLast nonempty, (List.dropLast_append_getLast nonempty).symm,
      visible _ (List.getLast_mem nonempty)⟩

theorem visible_of_word (word : String)
    (visible : word.toList ≠ [] ∧ ∀ char ∈ word.toList, isBlank char = false) :
    BeginsVisibly word.toList ∧ EndsVisibly word.toList :=
  visible_of_forall visible.1 visible.2

theorem Numeral.visible (numeral : Numeral) :
    BeginsVisibly numeral.text ∧ EndsVisibly numeral.text := by
  refine visible_of_forall ?_ fun char member =>
    Wording.not_blank_of_numeral (numeral.characters char member)
  exact List.append_ne_nil_of_left_ne_nil numeral.nonempty _

theorem WholeNumber.visible (number : WholeNumber) :
    BeginsVisibly number.digits ∧ EndsVisibly number.digits :=
  visible_of_forall number.nonempty fun char member =>
    not_blank_of_digit (isDecimalDigit_of_isDigit (number.areDigits char member))

theorem trim_append_of_visible (lead : List Char) (begins : BeginsVisibly text)
    (ends : EndsVisibly text) : trim (lead ++ text) = lead.dropWhile isBlank ++ text := by
  obtain ⟨first, rest, isText, firstVisible⟩ := begins
  obtain ⟨before, last, isEnd, lastVisible⟩ := ends
  apply trim_append
  · rw [isText]
    exact List.cons_ne_nil first rest
  · rw [isText]
    rintro char ⟨⟩
    exact firstVisible
  · rw [isEnd, List.getLast?_concat]
    rintro char ⟨⟩
    exact lastVisible

end Ends

namespace Wording

theorem begins (wording : Wording) : BeginsVisibly wording.text := by
  have root := visible_of_word "корень" (by decide)
  have factorial := visible_of_word "факториал" (by decide)
  cases wording with
  | root gap preposition radicand =>
      cases preposition with
      | none => exact (root.1.append _).append _
      | some behind => exact ((root.1.append _).append _).append _
  | factorialSign number gap => exact number.visible.1.append _
  | factorialWord ending gap number => exact ((factorial.1.append _).append _).append _
  | percentSign percent => exact percent.visible.1.append _
  | percentWord percent => exact percent.visible.1.append _
  | power base => exact base.visible.1.append _

theorem ends (wording : Wording) : EndsVisibly wording.text := by
  have sign := visible_of_word "!" (by decide)
  cases wording with
  | root gap preposition radicand => exact radicand.visible.2.append _
  | factorialSign number gap => exact (sign.2.append _).append _
  | factorialWord ending gap number => exact number.visible.2.append _
  | percentSign _ _ _ _ _ base | percentWord _ _ _ _ _ _ base =>
      exact (base.visible.2.append _).append _
  | power base gap between behind exponent => exact (exponent.visible.2.append _).append _

end Wording

theorem normalized_wording (lead : LeadIn) (wording : Wording) :
    normalized (lead.text ++ wording.text) = lead.trimmed.text ++ wording.text := by
  rw [normalized_of_settled (List.forall_mem_append.mpr ⟨lead.isSettled, wording.isSettled⟩)]
  exact trim_append_of_visible lead.text wording.begins wording.ends

/-! ### The question of a wording -/

section Asked

variable (lead : LeadIn) (wording : Wording)

theorem mentions_eq_false {word : String} (naming : word ∈ namingWords)
    (isEarlier : word ∈ wording.earlier) : mentions word (lead.text ++ wording.text) = false := by
  rw [← Bool.not_eq_true, mentions_iff]
  intro inside
  exact wording.not_isInfix_text isEarlier (lead.isInfix_text naming inside)

theorem askedByNumbers?_wording {words : List String} {form : List Piece}
    {ask? : List Float → Option Question} (naming : words ⊆ namingWords)
    (isEarlier : words ⊆ wording.earlier) :
    askedByNumbers? words form ask? (lead.text ++ wording.text) = none :=
  askedByNumbers?_eq_none fun _ member =>
    mentions_eq_false lead wording (naming member) (isEarlier member)

theorem squareRoot?_wording (isEarlier : ["корень", "sqrt"] ⊆ wording.earlier) :
    squareRoot? (lead.text ++ wording.text) = none :=
  askedByNumbers?_wording lead wording (by decide) isEarlier

theorem percentage?_wording (isEarlier : ["процент", "%"] ⊆ wording.earlier) :
    percentage? (lead.text ++ wording.text) = none :=
  askedByNumbers?_wording lead wording (by decide) isEarlier

theorem factorial?_wording (isEarlier : ["факториал", "!"] ⊆ wording.earlier) :
    factorial? (lead.text ++ wording.text) = none :=
  factorial?_eq_none (mentions_eq_false lead wording (by decide) (isEarlier (by decide)))
    (mentions_eq_false lead wording (by decide) (isEarlier (by decide)))

theorem operands?_factorialSignForm (isEarlier : "!" ∈ wording.earlier) :
    operands? factorialSignForm (lead.text ++ wording.text) = none := by
  cases met : operands? factorialSignForm (lead.text ++ wording.text) with
  | none => rfl
  | some operands =>
      have mentioned := ((hasForm_iff _ _).mpr ⟨operands, met⟩).mentions_factorialSign
      rw [mentions_eq_false lead wording (by decide) isEarlier] at mentioned
      cases mentioned

theorem WholeNumber.wholeNumber?_digits (number : WholeNumber) :
    wholeNumber? number.digits = some number.value :=
  wholeNumber?_of_digits number.nonempty
    (fun char member => isDecimalDigit_of_isDigit (number.areDigits char member))
    (fun char member _ => number.areDigits char member) number.fits

theorem mapM_number?_texts (numerals : List Numeral) :
    (numerals.map Numeral.text).mapM number? = some (numerals.map Numeral.value) := by
  induction numerals with
  | nil => rfl
  | cons numeral numerals ih =>
      rw [List.map_cons, List.mapM_cons, numeral.number?_text, ih]
      rfl

/-- The forms are tried in their order, and that of the wording is the first that is met. -/
theorem questionIn_wording : questionIn (lead.text ++ wording.text) = some wording.question := by
  have met := wording.operands?_text lead
  have noRoot := squareRoot?_wording lead wording
  have noFactorial := factorial?_wording lead wording
  have noPercentage := percentage?_wording lead wording
  have noSign := operands?_factorialSignForm lead wording
  cases wording with
  | root gap preposition radicand =>
      have asked := squareRoot?_eq_some_iff.mpr
        ⟨[radicand.text], [radicand.value], met, mapM_number?_texts [radicand], rfl⟩
      rw [questionIn, asked]
      rfl
  | factorialSign number gap =>
      have asked := factorial?_eq_some_iff.mpr ⟨number.digits, number.value,
        Option.or_eq_some_iff.mpr (.inl met), number.wholeNumber?_digits, rfl⟩
      rw [questionIn, noRoot (List.Subset.refl _), asked]
      rfl
  | factorialWord ending gap number =>
      have root : ["корень", "sqrt"] ⊆ ["корень", "sqrt", "!"] := by decide
      have sign : "!" ∈ ["корень", "sqrt", "!"] := by decide
      have asked := factorial?_eq_some_iff.mpr ⟨number.digits, number.value,
        Option.or_eq_some_iff.mpr (.inr ⟨noSign sign, met⟩), number.wholeNumber?_digits, rfl⟩
      rw [questionIn, noRoot root, asked]
      rfl
  | percentSign percent _ _ _ _ base | percentWord percent _ _ _ _ _ base =>
      have root : ["корень", "sqrt"] ⊆ ["корень", "sqrt", "факториал", "!"] := by decide
      have factorial : ["факториал", "!"] ⊆ ["корень", "sqrt", "факториал", "!"] := by decide
      have asked := percentage?_eq_some_iff.mpr ⟨[percent.text, base.text],
        [percent.value, base.value], met, mapM_number?_texts [percent, base], rfl⟩
      rw [questionIn, noRoot root, noFactorial factorial, asked]
      rfl
  | power base gap between behind exponent =>
      let words := ["корень", "sqrt", "факториал", "!", "процент", "%"]
      have root : ["корень", "sqrt"] ⊆ words := by decide
      have factorial : ["факториал", "!"] ⊆ words := by decide
      have percent : ["процент", "%"] ⊆ words := by decide
      have asked := power?_eq_some_iff.mpr ⟨[base.text, exponent.text],
        [base.value, exponent.value], met, mapM_number?_texts [base, exponent], rfl⟩
      rw [questionIn, noRoot root, noFactorial factorial, noPercentage percent, asked]
      rfl

end Asked

/-! ### The result of a wording -/

theorem factorial_eq (number : Nat) : factorial number = number.factorial := by
  induction number with
  | zero => rfl
  | succ number ih => rw [factorial, ih, Nat.factorial_succ]

theorem map_result_finite (number : Float) (solution : Float → Solution)
    (isResult : ∀ result, (solution result).result = .real result) :
    (finite number >>= fun result => pure (solution result)).map Solution.result =
      Wording.bounded number := by
  unfold finite Wording.bounded
  split
  · exact congrArg Except.ok (isResult number)
  · rfl

theorem map_result_factorial (number : Nat) :
    (solveFactorial number).map Solution.result = Wording.limitedFactorial number := by
  unfold solveFactorial Wording.limitedFactorial
  by_cases small : number ≤ largestFactorial
  · rw [if_neg (Nat.not_lt.mpr small), ← factorial_eq]
    exact (if_pos small).symm
  · rw [if_pos (Nat.not_le.mp small)]
    exact (if_neg small).symm

theorem map_result_power (base exponent : Float) :
    (solvePower base exponent).map Solution.result =
      if 100 < exponent then .error .exponentTooLarge
      else Wording.bounded (Wording.powerOf base exponent) := by
  have power : Arithmetic.raised base exponent = Wording.powerOf base exponent := rfl
  rw [solvePower, power]
  by_cases above : largestExponent < exponent
  · rw [if_pos above]
    exact (if_pos above).symm
  · rw [if_neg above]
    exact (map_result_finite _ _ fun _ => rfl).trans (if_neg above).symm

theorem Wording.map_result_solve (wording : Wording) (text : String) :
    (wording.question.solve text).map Solution.result = wording.result := by
  cases wording with
  | root _ _ radicand => exact map_result_finite radicand.value.sqrt _ fun _ => rfl
  | factorialSign number | factorialWord _ _ number => exact map_result_factorial number.value
  | percentSign percent _ _ _ _ base | percentWord percent _ _ _ _ _ base =>
      exact map_result_finite (percent.value * base.value / 100) _ fun _ => rfl
  | power base _ _ _ exponent => exact map_result_power base.value exponent.value

/-- A wording is answered as the question it stands for, with all of its operands and nothing
else, whatever the words before it are. -/
theorem solve_wording (lead : LeadIn) (wording : Wording) :
    Question.ofText? (String.ofList (lead.text ++ wording.text)) = some wording.question ∧
      (solve (String.ofList (lead.text ++ wording.text))).map Solution.result =
        wording.result := by
  have asked : Question.ofText? (String.ofList (lead.text ++ wording.text)) =
      some wording.question := by
    rw [Question.ofText?, String.toList_ofList, normalized_wording]
    exact questionIn_wording lead.trimmed wording
  refine ⟨asked, ?_⟩
  rw [solve, asked]
  exact wording.map_result_solve _

theorem solve_wording_power :
    (solve "сколько будет 2 в степени 0").map Solution.result = .ok (.real 1) ∧
      (solve "сколько будет 2 в степени 10").map Solution.result =
        Wording.bounded (Float.pow 2 10) := by
  obtain ⟨lead, isLead⟩ : ∃ lead : LeadIn, lead.text = "сколько будет ".toList :=
    ⟨⟨_, by decide, by decide, by decide⟩, rfl⟩
  obtain ⟨space, isSpace⟩ : ∃ space : SomeGap, space.text = [' '] :=
    ⟨⟨⟨_, by decide⟩, by decide⟩, rfl⟩
  obtain ⟨two, isTwo, readTwo⟩ : ∃ two : Numeral, two.text = ['2'] ∧ two.value = 2 :=
    ⟨⟨['2'], none, by decide, by decide, by decide⟩, rfl, by decide +kernel⟩
  obtain ⟨zero, isZero, readZero⟩ : ∃ zero : Numeral, zero.text = ['0'] ∧ zero.value = 0 :=
    ⟨⟨['0'], none, by decide, by decide, by decide⟩, rfl, by decide +kernel⟩
  obtain ⟨ten, isTen, readTen⟩ : ∃ ten : Numeral, ten.text = ['1', '0'] ∧ ten.value = 10 :=
    ⟨⟨['1', '0'], none, by decide, by decide, by decide⟩, rfl, by decide +kernel⟩
  have shape (exponent : Numeral) :
      (Wording.power two space.toGap space space.toGap exponent).text =
        two.text ++ (space.text ++ "в".toList ++ space.text ++ "степени".toList ++ space.text ++
          exponent.text) := rfl
  constructor
  · have text : lead.text ++ (Wording.power two space.toGap space space.toGap zero).text =
        "сколько будет 2 в степени 0".toList := by
      rw [shape, isLead, isTwo, isSpace, isZero]
      decide
    have small : ¬100 < (0 : Float) := by decide +kernel
    have nothing : ((0 : Float) == 0) = true := by decide +kernel
    have finite : (1 : Float).isFinite = true := by decide +kernel
    have solved := (solve_wording lead (.power two space.toGap space space.toGap zero)).2
    rw [text, String.ofList_toList, Wording.result, readTwo, readZero, if_neg small,
      Wording.powerOf, if_pos nothing, Wording.bounded, if_pos finite] at solved
    exact solved
  · have text : lead.text ++ (Wording.power two space.toGap space space.toGap ten).text =
        "сколько будет 2 в степени 10".toList := by
      rw [shape, isLead, isTwo, isSpace, isTen]
      decide
    have small : ¬100 < (10 : Float) := by decide +kernel
    have something : ¬((10 : Float) == 0) = true := by decide +kernel
    have solved := (solve_wording lead (.power two space.toGap space space.toGap ten)).2
    rw [text, String.ofList_toList, Wording.result, readTwo, readTen, if_neg small,
      Wording.powerOf, if_neg something] at solved
    exact solved

end ChatAssistant.Calculator
