import ChatAssistant.Proofs.Arithmetic.Reading
import ChatAssistant.Proofs.Calculator.Forms
import ChatAssistant.Proofs.Decimal.Digits

/-!
How a question is known by its form. The words of a form need not be looked for before its
operands are: where the form is, its words are. A form at the first place of which a digit is not
one of ASCII is not known, nor is a factorial of a number beyond every word.
-/

namespace ChatAssistant.Calculator

open Pattern Text

theorem mentions_of_split {word : String} {text found before behind : List Char}
    (inside : found <:+: text) (split : found = before ++ word.toList ++ behind) :
    mentions word text = true :=
  (mentions_iff word text).mpr (List.IsInfix.trans ⟨before, behind, split.symm⟩ inside)

section Words

variable {text : List Char}

theorem HasForm.mentions_root (form : HasForm text squareRootForm) :
    ∃ word ∈ ["корень", "sqrt"], mentions word text = true := by
  obtain ⟨found, operands, inside, filled⟩ := form
  obtain ⟨before, name, between, radicand, split, named, _⟩ := fills_squareRootForm filled
  rw [List.append_assoc] at split
  rcases named with rfl | rfl
  · exact ⟨"корень", by decide, mentions_of_split inside split⟩
  · exact ⟨"sqrt", by decide, mentions_of_split inside split⟩

theorem HasForm.mentions_factorialSign (form : HasForm text factorialSignForm) :
    mentions "!" text = true := by
  obtain ⟨found, operands, inside, filled⟩ := form
  obtain ⟨number, between, split, _⟩ := fills_factorialSignForm filled
  rw [← List.append_nil (_ ++ "!".toList)] at split
  exact mentions_of_split inside split

theorem HasForm.mentions_factorialWord (form : HasForm text factorialWordForm) :
    mentions "факториал" text = true := by
  obtain ⟨found, operands, inside, filled⟩ := form
  obtain ⟨between, number, split, _⟩ := fills_factorialWordForm filled
  have start : found = [] ++ "факториал".toList ++ (between ++ number) := by
    rw [split, List.append_assoc, List.nil_append]
  exact mentions_of_split inside start

theorem HasForm.mentions_percentage (form : HasForm text percentageForm) :
    ∃ word ∈ ["процент", "%"], mentions word text = true := by
  obtain ⟨found, operands, inside, filled⟩ := form
  obtain ⟨percent, gap, name, between, base, split, named, _⟩ := fills_percentageForm filled
  rw [List.append_assoc] at split
  rcases named with rfl | rfl
  · exact ⟨"%", by decide, mentions_of_split inside split⟩
  · exact ⟨"процент", by decide, mentions_of_split inside split⟩

theorem HasForm.mentions_power (form : HasForm text powerForm) :
    ∃ word ∈ ["степен"], mentions word text = true := by
  obtain ⟨found, operands, inside, filled⟩ := form
  obtain ⟨base, before, between, exponent, split, _⟩ := fills_powerForm filled
  have ending : "степени".toList = "степен".toList ++ "и".toList := by decide
  rw [ending, List.append_assoc, ← List.append_assoc _ "степен".toList, List.append_assoc] at split
  exact ⟨"степен", by decide, mentions_of_split inside split⟩

end Words

/-! ### Operands that are read -/

def HasPlainDigits (text : List Char) : Prop :=
  ∀ char ∈ text, isDecimalDigit char = true → char.isDigit = true

instance (text : List Char) : Decidable (HasPlainDigits text) :=
  List.decidableBAll _ text

theorem HasPlainDigits.all_isDigit {text : List Char} (plain : HasPlainDigits text)
    (digits : AllDigits text) : text.all Char.isDigit = true :=
  List.all_eq_true.mpr fun char member => plain char member (digits char member)

theorem number?_of_isNumeral {numeral : List Char} (isNumeral : IsNumeral numeral)
    (plain : HasPlainDigits numeral) : (number? numeral).isSome = true := by
  obtain ⟨whole, fraction, rfl, some, digits, isFraction⟩ := isNumeral
  have allDigits : ∀ char ∈ whole ++ fraction.drop 1, isDecimalDigit char = true := by
    rw [List.forall_mem_append]
    refine ⟨digits, ?_⟩
    rcases isFraction with rfl | ⟨more, rfl, digits⟩
    · exact List.forall_mem_nil _
    · exact digits
  have plainDigits : ∀ char ∈ whole ++ fraction.drop 1, char.isDigit = true := by
    intro char member
    refine plain char ?_ (allDigits char member)
    rcases List.mem_append.mp member with isWhole | behind
    · exact List.mem_append_left _ isWhole
    · exact List.mem_append_right _ (List.mem_of_mem_drop behind)
  have point : ∀ char ∈ fraction.head?, char = '.' := by
    rcases isFraction with rfl | ⟨more, rfl, _⟩
    · rintro char ⟨⟩
    · rintro char ⟨⟩
      rfl
  rw [number?, Decimal.ofNumeral?_append some plainDigits point]
  rfl

theorem isSome_number?_iff {numeral : List Char} (isNumeral : IsNumeral numeral) :
    (number? numeral).isSome = true ↔ HasPlainDigits numeral := by
  refine ⟨?_, number?_of_isNumeral isNumeral⟩
  intro isRead char member digit
  rw [number?, Option.isSome_map] at isRead
  obtain ⟨decimal, isRead⟩ := Option.isSome_iff_exists.mp isRead
  have character := (Arithmetic.characters_of_isNumeral isRead).2 char member
  rw [Arithmetic.isNumeralCharacter, Bool.or_eq_true, decide_eq_true_eq] at character
  rcases character with plain | rfl
  · exact plain
  · exact absurd digit (by decide)

theorem isSome_wholeNumber?_iff {digits : List Char} (some : digits ≠ [])
    (allDigits : AllDigits digits) :
    (wholeNumber? digits).isSome = true ↔
      HasPlainDigits digits ∧ Decimal.ofDigits digits < wholeNumberLimit := by
  have plain : digits.all Char.isDigit = true ↔ HasPlainDigits digits :=
    ⟨fun all char member _ => List.all_eq_true.mp all char member,
      fun plain => plain.all_isDigit allDigits⟩
  rw [wholeNumber?, List.isEmpty_eq_false_iff.mpr some, Bool.not_false, Bool.and_true,
    Option.isSome_ite, Bool.and_eq_true, decide_eq_true_eq, plain]

theorem wholeNumber?_of_digits {digits : List Char} (some : digits ≠ [])
    (allDigits : AllDigits digits) (plain : HasPlainDigits digits)
    (fits : Decimal.ofDigits digits < wholeNumberLimit) :
    wholeNumber? digits = .some (Decimal.ofDigits digits) := by
  rw [wholeNumber?, plain.all_isDigit allDigits, List.isEmpty_eq_false_iff.mpr some,
    decide_eq_true fits]
  rfl

theorem isSome_mapM_number?_iff (operands : List (List Char)) :
    (operands.mapM number?).isSome = true ↔
      ∀ operand ∈ operands, (number? operand).isSome = true := by
  induction operands with
  | nil => exact iff_of_true rfl (List.forall_mem_nil _)
  | cons operand operands ih =>
      rw [List.mapM_cons, List.forall_mem_cons, ← ih]
      cases number? operand with
      | none => simp
      | some number => cases operands.mapM number? <;> simp

theorem length_of_mapM_number? {operands : List (List Char)} {numbers : List Float}
    (read : operands.mapM number? = some numbers) : numbers.length = operands.length := by
  induction operands generalizing numbers with
  | nil =>
      cases read
      rfl
  | cons operand operands ih =>
      rw [List.mapM_cons] at read
      obtain ⟨number, _, read⟩ := Option.bind_eq_some_iff.mp read
      obtain ⟨others, readOthers, read⟩ := Option.bind_eq_some_iff.mp read
      cases read
      rw [List.length_cons, List.length_cons, ih readOthers]

/-! ### Forms with numbers -/

/-- The form is in the text, and at the first place of it every operand is in digits of ASCII. -/
def HasReadableForm (form : List Piece) (text : List Char) : Prop :=
  HasForm text form ∧
    ∀ operands, operands? form text = some operands → ∀ operand ∈ operands, HasPlainDigits operand

section Numbers

variable {words : List String} {form : List Piece} {ask? : List Float → Option Question}
  {text : List Char}

theorem askedByNumbers?_eq_none (unmentioned : ∀ word ∈ words, mentions word text = false) :
    askedByNumbers? words form ask? text = none := by
  have absent : words.any (mentions · text) = false :=
    List.any_eq_false.mpr fun word member => Bool.not_eq_true _ ▸ unmentioned word member
  rw [askedByNumbers?, absent]
  rfl

/-- The words need not be looked for where the form stands only with one of them. -/
theorem askedByNumbers?_eq_some_iff
    (mentioned : HasForm text form → ∃ word ∈ words, mentions word text = true)
    (question : Question) :
    askedByNumbers? words form ask? text = some question ↔
      ∃ operands numbers, operands? form text = some operands ∧
        operands.mapM number? = some numbers ∧ ask? numbers = some question := by
  constructor
  · intro asked
    rw [askedByNumbers?] at asked
    split at asked
    · obtain ⟨numbers, read, asked⟩ := Option.bind_eq_some_iff.mp asked
      obtain ⟨operands, met, read⟩ := Option.bind_eq_some_iff.mp read
      exact ⟨operands, numbers, met, read, asked⟩
    · cases asked
  · rintro ⟨operands, numbers, met, read, asked⟩
    have found : words.any (mentions · text) = true :=
      List.any_eq_true.mpr (mentioned ((hasForm_iff _ _).mpr ⟨operands, met⟩))
    rw [askedByNumbers?, if_pos found, met, Option.bind_some, read, Option.bind_some, asked]

theorem isSome_askedByNumbers?_iff
    (mentioned : HasForm text form → ∃ word ∈ words, mentions word text = true)
    (numerals : ∀ {found operands}, Fills form found operands →
      (∀ operand ∈ operands, IsNumeral operand) ∧
        ∀ numbers : List Float, numbers.length = operands.length → (ask? numbers).isSome = true) :
    (askedByNumbers? words form ask? text).isSome = true ↔ HasReadableForm form text := by
  rw [Option.isSome_iff_exists]
  simp only [askedByNumbers?_eq_some_iff mentioned]
  constructor
  · rintro ⟨question, operands, numbers, met, read, _⟩
    refine ⟨(hasForm_iff _ _).mpr ⟨operands, met⟩, ?_⟩
    rw [met]
    rintro _ ⟨⟩ operand member
    obtain ⟨found, _, filled⟩ := fills_of_operands? met
    have isRead := (isSome_mapM_number?_iff operands).mp (Option.isSome_of_eq_some read)
    exact (isSome_number?_iff ((numerals filled).1 operand member)).mp (isRead operand member)
  · rintro ⟨form, plain⟩
    obtain ⟨operands, met⟩ := (hasForm_iff _ _).mp form
    obtain ⟨found, _, filled⟩ := fills_of_operands? met
    obtain ⟨isNumeral, asks⟩ := numerals filled
    have isRead : (operands.mapM number?).isSome = true :=
      (isSome_mapM_number?_iff operands).mpr fun operand member =>
        (isSome_number?_iff (isNumeral operand member)).mpr (plain operands met operand member)
    obtain ⟨numbers, read⟩ := Option.isSome_iff_exists.mp isRead
    obtain ⟨question, asked⟩ :=
      Option.isSome_iff_exists.mp (asks numbers (length_of_mapM_number? read))
    exact ⟨question, operands, numbers, met, read, asked⟩

end Numbers

/-! ### The named forms -/

section Known

variable {text : List Char} {question : Question}

theorem squareRoot?_eq_some_iff :
    squareRoot? text = some question ↔
      ∃ operands numbers, operands? squareRootForm text = some operands ∧
        operands.mapM number? = some numbers ∧ askRoot? numbers = some question :=
  askedByNumbers?_eq_some_iff HasForm.mentions_root question

theorem percentage?_eq_some_iff :
    percentage? text = some question ↔
      ∃ operands numbers, operands? percentageForm text = some operands ∧
        operands.mapM number? = some numbers ∧ askPercentage? numbers = some question :=
  askedByNumbers?_eq_some_iff HasForm.mentions_percentage question

theorem power?_eq_some_iff :
    power? text = some question ↔
      ∃ operands numbers, operands? powerForm text = some operands ∧
        operands.mapM number? = some numbers ∧ askPower? numbers = some question :=
  askedByNumbers?_eq_some_iff HasForm.mentions_power question

theorem factorial?_eq_some_iff :
    factorial? text = some question ↔
      ∃ digits number, factorialOperands? text = some [digits] ∧
        wholeNumber? digits = some number ∧ question = .factorial number := by
  constructor
  · intro asked
    unfold factorial? at asked
    split at asked
    · split at asked
      · rename_i digits met
        obtain ⟨number, read, rfl⟩ := Option.map_eq_some_iff.mp asked
        exact ⟨digits, number, met, read, rfl⟩
      · cases asked
    · cases asked
  · rintro ⟨digits, number, met, read, rfl⟩
    have mentioned : (mentions "факториал" text || mentions "!" text) = true := by
      rw [Bool.or_eq_true]
      rcases Option.or_eq_some_iff.mp met with signed | ⟨_, worded⟩
      · exact Or.inr ((hasForm_iff _ _).mpr ⟨_, signed⟩).mentions_factorialSign
      · exact Or.inl ((hasForm_iff _ _).mpr ⟨_, worded⟩).mentions_factorialWord
    simp only [factorial?, mentioned, if_true, met, read, Option.map_some]

theorem isSome_squareRoot?_iff :
    (squareRoot? text).isSome = true ↔ HasReadableForm squareRootForm text := by
  apply isSome_askedByNumbers?_iff HasForm.mentions_root
  intro found operands filled
  obtain ⟨_, _, _, radicand, _, _, rfl, numeral⟩ := fills_squareRootForm filled
  refine ⟨List.forall_mem_singleton.mpr numeral, ?_⟩
  intro numbers one
  obtain ⟨number, rfl⟩ := List.length_eq_one_iff.mp one
  rfl

theorem isSome_percentage?_iff :
    (percentage? text).isSome = true ↔ HasReadableForm percentageForm text := by
  apply isSome_askedByNumbers?_iff HasForm.mentions_percentage
  intro found operands filled
  obtain ⟨percent, _, _, _, base, _, _, rfl, numeral₁, numeral₂⟩ := fills_percentageForm filled
  refine ⟨List.forall_mem_cons.mpr ⟨numeral₁, List.forall_mem_singleton.mpr numeral₂⟩, ?_⟩
  intro numbers two
  obtain ⟨first, second, rfl⟩ := List.length_eq_two.mp two
  rfl

theorem isSome_power?_iff :
    (power? text).isSome = true ↔ HasReadableForm powerForm text := by
  apply isSome_askedByNumbers?_iff HasForm.mentions_power
  intro found operands filled
  obtain ⟨base, _, _, exponent, _, rfl, numeral₁, numeral₂⟩ := fills_powerForm filled
  refine ⟨List.forall_mem_cons.mpr ⟨numeral₁, List.forall_mem_singleton.mpr numeral₂⟩, ?_⟩
  intro numbers two
  obtain ⟨first, second, rfl⟩ := List.length_eq_two.mp two
  rfl

/-- One of the forms of a factorial is in the text, and the operand at the first place of it is a
number of 64 bits in digits of ASCII. -/
def HasReadableFactorial (text : List Char) : Prop :=
  (HasForm text factorialSignForm ∨ HasForm text factorialWordForm) ∧
    ∀ digits, factorialOperands? text = some [digits] →
      HasPlainDigits digits ∧ Decimal.ofDigits digits < wholeNumberLimit

theorem digits_of_factorialOperands? {operands : List (List Char)}
    (met : factorialOperands? text = some operands) :
    ∃ digits, operands = [digits] ∧ digits ≠ [] ∧ AllDigits digits := by
  rcases Option.or_eq_some_iff.mp met with signed | ⟨_, worded⟩
  · obtain ⟨found, _, filled⟩ := fills_of_operands? signed
    obtain ⟨digits, _, _, rfl, some, allDigits⟩ := fills_factorialSignForm filled
    exact ⟨digits, rfl, some, allDigits⟩
  · obtain ⟨found, _, filled⟩ := fills_of_operands? worded
    obtain ⟨_, digits, _, rfl, some, allDigits⟩ := fills_factorialWordForm filled
    exact ⟨digits, rfl, some, allDigits⟩

theorem isSome_factorialOperands?_iff :
    (factorialOperands? text).isSome = true ↔
      HasForm text factorialSignForm ∨ HasForm text factorialWordForm := by
  rw [factorialOperands?, Option.isSome_or, Bool.or_eq_true, hasForm_iff, hasForm_iff,
    Option.isSome_iff_exists, Option.isSome_iff_exists]

theorem isSome_factorial?_iff :
    (factorial? text).isSome = true ↔ HasReadableFactorial text := by
  rw [Option.isSome_iff_exists, HasReadableFactorial, ← isSome_factorialOperands?_iff]
  simp only [factorial?_eq_some_iff]
  constructor
  · rintro ⟨question, digits, number, met, read, _⟩
    obtain ⟨_, ⟨⟩, some, allDigits⟩ := digits_of_factorialOperands? met
    rw [met]
    refine ⟨rfl, ?_⟩
    rintro _ ⟨⟩
    exact (isSome_wholeNumber?_iff some allDigits).mp (Option.isSome_of_eq_some read)
  · rintro ⟨known, readable⟩
    obtain ⟨operands, met⟩ := Option.isSome_iff_exists.mp known
    obtain ⟨digits, rfl, some, allDigits⟩ := digits_of_factorialOperands? met
    obtain ⟨number, read⟩ := Option.isSome_iff_exists.mp
      ((isSome_wholeNumber?_iff some allDigits).mpr (readable digits met))
    exact ⟨.factorial number, digits, number, met, read, rfl⟩

def named? (text : List Char) : Option Question :=
  (squareRoot? text).or <| (factorial? text).or <| (percentage? text).or (power? text)

theorem isSome_named?_iff :
    (named? text).isSome = true ↔
      HasReadableForm squareRootForm text ∨ HasReadableFactorial text ∨
        HasReadableForm percentageForm text ∨ HasReadableForm powerForm text := by
  simp only [named?, Option.isSome_or, Bool.or_eq_true, isSome_squareRoot?_iff,
    isSome_factorial?_iff, isSome_percentage?_iff, isSome_power?_iff]

end Known

def Question.isNamed : Question → Bool
  | .arithmetic _ => false
  | _ => true

theorem eq_of_askRoot? {numbers : List Float} {question : Question}
    (asks : askRoot? numbers = some question) : ∃ radicand, question = .squareRoot radicand := by
  unfold askRoot? at asks
  split at asks
  · cases asks
    exact ⟨_, rfl⟩
  · cases asks

theorem eq_of_askPercentage? {numbers : List Float} {question : Question}
    (asks : askPercentage? numbers = some question) :
    ∃ percent base, question = .percentage percent base := by
  unfold askPercentage? at asks
  split at asks
  · cases asks
    exact ⟨_, _, rfl⟩
  · cases asks

theorem eq_of_askPower? {numbers : List Float} {question : Question}
    (asks : askPower? numbers = some question) :
    ∃ base exponent, question = .power base exponent := by
  unfold askPower? at asks
  split at asks
  · cases asks
    exact ⟨_, _, rfl⟩
  · cases asks

theorem isNamed_of_named? {text : List Char} {question : Question}
    (asked : named? text = some question) : question.isNamed = true := by
  rw [named?, Option.or_eq_some_iff, Option.or_eq_some_iff, Option.or_eq_some_iff] at asked
  rcases asked with asked | ⟨_, asked | ⟨_, asked | ⟨_, asked⟩⟩⟩
  · obtain ⟨_, numbers, _, _, asks⟩ := squareRoot?_eq_some_iff.mp asked
    obtain ⟨_, rfl⟩ := eq_of_askRoot? asks
    rfl
  · obtain ⟨_, _, _, _, rfl⟩ := factorial?_eq_some_iff.mp asked
    rfl
  · obtain ⟨_, numbers, _, _, asks⟩ := percentage?_eq_some_iff.mp asked
    obtain ⟨_, _, rfl⟩ := eq_of_askPercentage? asks
    rfl
  · obtain ⟨_, numbers, _, _, asks⟩ := power?_eq_some_iff.mp asked
    obtain ⟨_, _, rfl⟩ := eq_of_askPower? asks
    rfl

theorem isNamed_of_arithmetic? {text : List Char} {question : Question}
    (asked : arithmetic? text = some question) : question.isNamed = false := by
  simp only [arithmetic?] at asked
  split at asked
  · cases asked
  · cases asked
    rfl

theorem questionIn_eq (text : List Char) :
    questionIn text = (named? text).or (arithmetic? text) := by
  simp only [questionIn, named?, Option.or_assoc]

theorem isNamed_iff_of_questionIn {text : List Char} {question : Question}
    (asked : questionIn text = some question) :
    question.isNamed = true ↔ (named? text).isSome = true := by
  rw [questionIn_eq, Option.or_eq_some_iff] at asked
  rcases asked with asked | ⟨unnamed, asked⟩
  · rw [asked]
    exact iff_of_true (isNamed_of_named? asked) rfl
  · rw [unnamed, isNamed_of_arithmetic? asked]
    exact iff_of_false Bool.false_ne_true Bool.false_ne_true

theorem solve_eq_ok_iff (text : String) (solution : Solution) :
    solve text = .ok solution ↔
      ∃ question, Question.ofText? text = some question ∧ question.solve text = .ok solution := by
  unfold solve
  cases Question.ofText? text with
  | none => simp only [reduceCtorEq, false_and, exists_false]
  | some question => simp only [Option.some.injEq, exists_eq_left']

theorem solveArithmetic_eq_ok_iff (text : String) (expression : List Char) (solution : Solution) :
    solveArithmetic text expression = .ok solution ↔
      ∃ result, Arithmetic.evaluate? expression = some result ∧
        ¬result.isInf = true ∧ ¬result.isNaN = true ∧
        solution =
          { result := .real result
            explanation := "Результат вычисления: " ++ String.ofList expression
            step := String.ofList expression ++ " = " ++ shown result } := by
  unfold solveArithmetic
  constructor
  · intro solved
    split at solved
    · cases solved
    · rename_i result evaluated
      split at solved
      · cases solved
      · rename_i bounded
        split at solved
        · cases solved
        · rename_i defined
          cases solved
          exact ⟨result, evaluated, bounded, defined, rfl⟩
  · rintro ⟨result, evaluated, bounded, defined, rfl⟩
    rw [evaluated]
    dsimp only
    rw [if_neg bounded, if_neg defined]

/-- A solution answers a question of a named form exactly if such a form can be read in the text;
else it answers the arithmetic that is left of the text. It is not enough that a word of a form is
there. -/
theorem isNamed_iff_of_solve {text : String} {solution : Solution}
    (solved : solve text = .ok solution) :
    let asked := normalized text.toList
    ∃ question, Question.ofText? text = some question ∧ question.solve text = .ok solution ∧
      (question.isNamed = true ↔
        HasReadableForm squareRootForm asked ∨ HasReadableFactorial asked ∨
          HasReadableForm percentageForm asked ∨ HasReadableForm powerForm asked) := by
  obtain ⟨question, asked, answered⟩ := (solve_eq_ok_iff text solution).mp solved
  refine ⟨question, asked, answered, ?_⟩
  rw [isNamed_iff_of_questionIn asked, isSome_named?_iff]

/-- The root of a number in other digits is not read, but the factorial behind it is. -/
theorem isNamed_iff_of_solve_factorial :
    let text := "корень из ٣ и 5!"
    let solution : Solution := ⟨.whole 120, "Факториал числа 5", "5! = 120"⟩
    let asked := normalized text.toList
    solve text = .ok solution ∧
      ∃ question, Question.ofText? text = some question ∧ question.solve text = .ok solution ∧
        (question.isNamed = true ↔
          HasReadableForm squareRootForm asked ∨ HasReadableFactorial asked ∨
            HasReadableForm percentageForm asked ∨ HasReadableForm powerForm asked) := by
  intro text solution asked
  have isFactorial : Question.ofText? "корень из ٣ и 5!" = some (.factorial 5) := by rfl
  have solved : solve text = .ok solution :=
    (solve_eq_ok_iff text solution).mpr ⟨.factorial 5, isFactorial, by rfl⟩
  exact ⟨solved, isNamed_iff_of_solve solved⟩

/-- A text that asks for a root gets the number it is asked of for an answer. -/
theorem solve_negative_root :
    mentions "корень" (lowercase "корень из -16".toList) = true ∧
      Question.ofText? "корень из -16" = some (.arithmetic "-16".toList) ∧
      (solve "корень из -16").toOption.map Solution.explanation =
        some "Результат вычисления: -16" := by
  refine ⟨?_, ?_, ?_⟩
  · decide
  · rfl
  · decide

end ChatAssistant.Calculator
