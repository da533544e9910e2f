import ChatAssistant.Backend.Query
import ChatAssistant.Proofs.Calculator.Recognition
import ChatAssistant.Proofs.Route.Grounds
import ChatAssistant.Proofs.Text.Lowercase

/-!
Which of the questions that the calculator knows by their form are sent to it. A form with its word
in it always is; the forms are also written with signs, which by themselves are no ground for that.
-/

namespace ChatAssistant

open Pattern Text

namespace Calculator

/-- The characters that a text has in the form in which it is read, but may not have as it
stands. -/
def madeCharacters : List Char :=
  ['*', '/', 'i', '\u0307', 'σ', 'ς']

def IsMade (char : Char) : Prop :=
  char ∈ madeCharacters

instance (char : Char) : Decidable (IsMade char) :=
  inferInstanceAs (Decidable (_ ∈ _))

theorem signReplaced_eq_self {char : Char} (notMade : ¬IsMade (signReplaced char)) :
    signReplaced char = char := by
  unfold signReplaced at notMade ⊢
  split
  · rename_i times
    rw [if_pos times] at notMade
    exact absurd (by decide) notMade
  · rename_i noTimes
    rw [if_neg noTimes] at notMade
    split
    · rename_i divided
      rw [if_pos divided] at notMade
      exact absurd (by decide) notMade
    · rfl

/-- A part of the text in the form in which it is read comes from a part of the text, character for
character. -/
theorem exists_infix_of_normalized {found text : List Char}
    (notMade : ∀ char ∈ found, ¬IsMade char) (inside : found <:+: normalized text) :
    ∃ origin, origin <:+: text ∧ origin.map toLower = found := by
  obtain ⟨lowered, trimmed, rfl⟩ := List.infix_map_iff.mp inside
  have kept : lowered.map signReplaced = lowered := by
    conv_rhs => rw [← List.map_id lowered]
    apply List.map_congr_left
    intro char member
    exact signReplaced_eq_self (notMade _ (List.mem_map_of_mem member))
  rw [kept] at notMade ⊢
  apply exists_infix_of_lowercase
  · intro char member contextual
    exact notMade char member (List.mem_cons_of_mem _ (List.mem_cons_of_mem _ contextual))
  · exact trimmed.trans (trim_isInfix _)

theorem not_isMade_of {accepts : Char → Bool}
    (refuses : madeCharacters.any accepts = false) {char : Char}
    (accepted : accepts char = true) : ¬IsMade char := by
  intro made
  exact List.any_eq_false.mp refuses char made accepted

theorem not_isMade_of_digit {char : Char} (digit : isDecimalDigit char = true) : ¬IsMade char :=
  not_isMade_of (by decide) digit

theorem not_isMade_of_blank {char : Char} (blank : isBlank char = true) : ¬IsMade char :=
  not_isMade_of (by decide) blank

theorem not_isMade_of_small {char : Char} (small : smallCyrillic.has char = true) :
    ¬IsMade char :=
  not_isMade_of (by decide) small

theorem map_foldCase_of_small {origin word : List Char}
    (small : ∀ char ∈ word, smallCyrillic.has char = true) (image : origin.map toLower = word) :
    origin.map foldCase = word.map foldCase := by
  subst image
  rw [List.map_map]
  apply List.map_congr_left
  intro char member
  exact (foldCase_toLower (small _ (List.mem_map_of_mem member))).symm

theorem hasStem_of_mentions {word : String} {text : List Char}
    (small : ∀ char ∈ word.toList, smallCyrillic.has char = true)
    (mentioned : mentions word (normalized text) = true) : Route.HasStem text word := by
  rw [mentions_iff] at mentioned
  obtain ⟨origin, inside, image⟩ := exists_infix_of_normalized
    (fun char member => not_isMade_of_small (small char member)) mentioned
  exact ⟨origin, inside, map_foldCase_of_small small image⟩

theorem hasPercentage_of_normalized {digit : Char} {gap text : List Char}
    (isDigit : isDecimalDigit digit = true) (blank : ∀ char ∈ gap, isBlank char = true)
    (inside : digit :: (gap ++ "процент".toList) <:+: normalized text) :
    Route.HasPercentage text := by
  have small : ∀ char ∈ "процент".toList, smallCyrillic.has char = true :=
    List.all_eq_true.mp (by decide)
  have notMade : ∀ char ∈ digit :: (gap ++ "процент".toList), ¬IsMade char := by
    intro char member
    rw [List.mem_cons, List.mem_append] at member
    rcases member with rfl | member | member
    · exact not_isMade_of_digit isDigit
    · exact not_isMade_of_blank (blank char member)
    · exact not_isMade_of_small (small char member)
  obtain ⟨origin, contained, image⟩ := exists_infix_of_normalized notMade inside
  obtain ⟨digit', _, rfl, rfl, behind⟩ := List.map_eq_cons_iff.mp image
  obtain ⟨gap', word, rfl, rfl, spelt⟩ := List.map_eq_append_iff.mp behind
  refine ⟨digit', gap', word, contained, ?_, ?_, map_foldCase_of_small small spelt⟩
  · rw [toLower_eq_self_of_digit isDigit] at isDigit
    exact isDigit
  · intro char member
    have lowered := blank _ (List.mem_map_of_mem member)
    rw [toLower_eq_self_of_blank lowered] at lowered
    exact lowered

/-! ### Forms written with a sign -/

def squareRootSignForm : List Piece :=
  [.skip (spelled "sqrt" ++ blanks ++ .optional (spelled "(") ++ blanks), .operand .numeral]

/-- A percentage in which the percent is of the given shape, and named as given. -/
def percentageFormOf (percent name : Pattern) : List Piece :=
  [.operand percent,
    .skip (blanks ++ name ++ blanks ++ .optional (.either (spelled "от") (spelled "из")) ++ blanks),
    .operand .numeral]

def percentageSignForm : List Piece :=
  percentageFormOf .numeral (spelled "%")

/-- The number ends with its point, so that no digit of it stands beside the word. -/
def pointedPercentageForm : List Piece :=
  percentageFormOf (.nonemptyRun isDecimalDigit ++ spelled ".")
    (spelled "процент" ++ .run isWordCharacter)

namespace Question

def forms : Question → List (List Piece)
  | .squareRoot _ => [squareRootForm]
  | .factorial _ => [factorialSignForm, factorialWordForm]
  | .percentage _ _ => [percentageForm]
  | .power _ _ => [powerForm]
  | .arithmetic _ => []

/-- The ways to write these forms without a word directly beside a digit. -/
def signForms : Question → List (List Piece)
  | .squareRoot _ => [squareRootSignForm]
  | .factorial _ => [factorialSignForm]
  | .percentage _ _ => [percentageSignForm, pointedPercentageForm]
  | .power _ _ => []
  | .arithmetic _ => []

/-- The text has a form of the question, and wherever it has one, a sign stands for its word. -/
def IsWrittenBySign (question : Question) (text : List Char) : Prop :=
  (∃ form ∈ question.forms, HasForm text form) ∧
    ∀ form ∈ question.forms, ∀ found operands, found <:+: text → Fills form found operands →
      ∃ signed ∈ question.signForms, Fills signed found operands

end Question

theorem signed_or_named_of_fills_squareRootForm {found : List Char} {operands : List (List Char)}
    (filled : Fills squareRootForm found operands) :
    Fills squareRootSignForm found operands ∨ mentions "корень" found = true := by
  rw [squareRootForm, fills_skip_operand] at filled
  obtain ⟨front, back, rfl, worded | signed, last⟩ := filled
  · obtain ⟨_, preposition, rfl, ⟨_, gap, rfl, ⟨before, name, rfl, _, spelt⟩, _⟩, _⟩ := worded
    rw [accepts_spelled] at spelt
    subst spelt
    refine Or.inr ((mentions_iff _ _).mpr ⟨before, gap ++ preposition ++ back, ?_⟩)
    simp only [List.append_assoc]
  · exact Or.inl ((fills_skip_operand _ _ _ _).mpr ⟨front, back, rfl, signed, last⟩)

theorem exists_last_of_isNumeral {numeral : List Char} (isNumeral : IsNumeral numeral) :
    (∃ front last, numeral = front ++ [last] ∧ isDecimalDigit last = true) ∨
      ∃ whole, numeral = whole ++ ['.'] ∧ whole ≠ [] ∧ AllDigits whole := by
  obtain ⟨whole, fraction, rfl, some, digits, isFraction⟩ := isNumeral
  have last_of_digits : ∀ {run : List Char}, run ≠ [] → AllDigits run →
      ∃ front last, run = front ++ [last] ∧ isDecimalDigit last = true := by
    intro run some digits
    refine ⟨run.dropLast, run.getLast some, (List.dropLast_append_getLast some).symm, ?_⟩
    exact digits _ (List.getLast_mem some)
  rcases isFraction with rfl | ⟨more, rfl, moreDigits⟩
  · rw [List.append_nil]
    exact Or.inl (last_of_digits some digits)
  · by_cases none : more = []
    · exact Or.inr ⟨whole, by rw [none], some, digits⟩
    · obtain ⟨front, last, split, digit⟩ := last_of_digits none moreDigits
      refine Or.inl ⟨whole ++ '.' :: front, last, ?_, digit⟩
      rw [split, List.append_assoc, List.cons_append]

/-- The word of a percentage stands directly beside a digit, unless a sign stands for it or a point
stands between. -/
theorem signed_or_named_of_fills_percentageForm {found : List Char} {operands : List (List Char)}
    (filled : Fills percentageForm found operands) :
    (∃ signed ∈ [percentageSignForm, pointedPercentageForm], Fills signed found operands) ∨
      ∃ digit gap, digit :: (gap ++ "процент".toList) <:+: found ∧
        isDecimalDigit digit = true ∧ ∀ char ∈ gap, isBlank char = true := by
  rw [percentageForm, fills_operand_skip_operand] at filled
  obtain ⟨percent, _, base, rfl, numeral, rfl, ⟨_, behind, rfl, ⟨_, preposition, rfl,
    ⟨_, space, rfl, ⟨gap, name, rfl, blank, named⟩, isSpace⟩, isPreposition⟩, isBehind⟩, last⟩ :=
    filled
  have written {shape word : Pattern} (isPercent : shape.Accepts percent)
      (isName : word.Accepts name) : Fills (percentageFormOf shape word)
        (percent ++ (gap ++ name ++ space ++ preposition ++ behind ++ base)) [percent, base] :=
    (fills_operand_skip_operand _ _ _ _ _).mpr ⟨percent, _, base, rfl, isPercent, rfl,
      ⟨_, behind, rfl, ⟨_, preposition, rfl, ⟨_, space, rfl, ⟨gap, name, rfl, blank, isName⟩,
        isSpace⟩, isPreposition⟩, isBehind⟩, last⟩
  rcases named with signed | worded
  · exact Or.inl ⟨percentageSignForm, List.mem_cons_self, written numeral signed⟩
  · rcases exists_last_of_isNumeral numeral with ⟨front, digit, rfl, isDigit⟩ | ⟨whole, rfl, digits⟩
    · obtain ⟨word, ending, rfl, spelt, _⟩ := worded
      rw [accepts_spelled] at spelt
      subst spelt
      refine Or.inr ⟨digit, gap, ⟨front, ending ++ space ++ preposition ++ behind ++ base, ?_⟩,
        isDigit, blank⟩
      simp only [List.append_assoc, List.cons_append, List.nil_append]
    · have pointed : (nonemptyRun isDecimalDigit ++ spelled ".").Accepts (whole ++ ['.']) :=
        ⟨whole, ['.'], rfl, digits, (accepts_spelled _ _).mpr rfl⟩
      exact Or.inl ⟨pointedPercentageForm, List.mem_cons_of_mem _ List.mem_cons_self,
        written pointed worded⟩

theorem not_mentions_of_groundless {text : List Char} (groundless : ¬Route.HasGround text) :
    ∀ word ∈ ["корень", "факториал", "степен"], ¬mentions word (normalized text) = true := by
  intro word member mentioned
  have small : ∀ word ∈ ["корень", "факториал", "степен"],
      word.toList.all smallCyrillic.has = true := by decide
  have stem := hasStem_of_mentions (List.all_eq_true.mp (small word member)) mentioned
  exact groundless (Or.inr (Or.inr (Or.inr (Or.inl ⟨word, member, stem⟩))))

section Groundless

/-! One lemma for each form. The word of a form would be a ground, so a sign stands for it. -/

variable {text : List Char} {question : Question} (groundless : ¬Route.HasGround text)

include groundless

theorem isWrittenBySign_of_squareRoot? (asked : squareRoot? (normalized text) = some question) :
    question.IsWrittenBySign (normalized text) := by
  obtain ⟨operands, _, met, _, asks⟩ := squareRoot?_eq_some_iff.mp asked
  obtain ⟨_, rfl⟩ := eq_of_askRoot? asks
  refine ⟨⟨squareRootForm, List.mem_singleton_self _, (hasForm_iff _ _).mpr ⟨_, met⟩⟩, ?_⟩
  intro form member found operands inside filled
  obtain rfl := List.mem_singleton.mp member
  rcases signed_or_named_of_fills_squareRootForm filled with signed | worded
  · exact ⟨squareRootSignForm, List.mem_singleton_self _, signed⟩
  · have mentioned := ((mentions_iff _ _).mp worded).trans inside
    exact absurd ((mentions_iff _ _).mpr mentioned)
      (not_mentions_of_groundless groundless "корень" (by decide))

theorem isWrittenBySign_of_factorial? (asked : factorial? (normalized text) = some question) :
    question.IsWrittenBySign (normalized text) := by
  obtain ⟨digits, _, met, _, rfl⟩ := factorial?_eq_some_iff.mp asked
  constructor
  · rcases isSome_factorialOperands?_iff.mp (Option.isSome_of_eq_some met) with signed | worded
    · exact ⟨factorialSignForm, List.mem_cons_self, signed⟩
    · exact ⟨factorialWordForm, List.mem_cons_of_mem _ List.mem_cons_self, worded⟩
  · intro form member found operands inside filled
    rcases List.mem_pair.mp member with rfl | rfl
    · exact ⟨factorialSignForm, List.mem_singleton_self _, filled⟩
    · have form : HasForm (normalized text) factorialWordForm := ⟨found, operands, inside, filled⟩
      exact absurd form.mentions_factorialWord
        (not_mentions_of_groundless groundless "факториал" (by decide))

theorem isWrittenBySign_of_percentage? (asked : percentage? (normalized text) = some question) :
    question.IsWrittenBySign (normalized text) := by
  obtain ⟨operands, _, met, _, asks⟩ := percentage?_eq_some_iff.mp asked
  obtain ⟨_, _, rfl⟩ := eq_of_askPercentage? asks
  refine ⟨⟨percentageForm, List.mem_singleton_self _, (hasForm_iff _ _).mpr ⟨_, met⟩⟩, ?_⟩
  intro form member found operands inside filled
  obtain rfl := List.mem_singleton.mp member
  rcases signed_or_named_of_fills_percentageForm filled with signed | ⟨digit, gap, part, isDigit,
    blank⟩
  · exact signed
  · have percentage := hasPercentage_of_normalized isDigit blank (part.trans inside)
    exact absurd (Or.inr (Or.inr (Or.inl percentage))) groundless

theorem power?_eq_none_of_groundless : power? (normalized text) = none := by
  rw [Option.eq_none_iff_forall_ne_some]
  intro question asked
  obtain ⟨operands, _, met, _, _⟩ := power?_eq_some_iff.mp asked
  obtain ⟨word, member, mentioned⟩ := ((hasForm_iff _ _).mpr ⟨_, met⟩).mentions_power
  obtain rfl := List.mem_singleton.mp member
  exact not_mentions_of_groundless groundless "степен" (by decide) mentioned

theorem isWrittenBySign_of_named? (asked : named? (normalized text) = some question) :
    question.IsWrittenBySign (normalized text) := by
  rw [named?, power?_eq_none_of_groundless groundless, Option.or_none, Option.or_eq_some_iff,
    Option.or_eq_some_iff] at asked
  rcases asked with root | ⟨_, factorial | ⟨_, percentage⟩⟩
  · exact isWrittenBySign_of_squareRoot? groundless root
  · exact isWrittenBySign_of_factorial? groundless factorial
  · exact isWrittenBySign_of_percentage? groundless percentage

end Groundless

end Calculator

open Calculator in
/-- A text that the calculator knows by a form goes to the calculator, but for a text without any
ground for that: there the form is written with a sign wherever it stands. -/
theorem Route.ofText_of_named {text : String} {question : Question}
    (asked : Question.ofText? text = some question) (named : question.isNamed = true) :
    Route.ofText text = .math ∧ Query.ofText text = .math text ∨
      Route.ofText text = .search ∧ ¬Route.HasGround text.toList ∧
        question.IsWrittenBySign (normalized text.toList) := by
  have known : named? (normalized text.toList) = some question := by
    rw [Question.ofText?, questionIn_eq, Option.or_eq_some_iff] at asked
    rcases asked with asked | ⟨_, asked⟩
    · exact asked
    · rw [isNamed_of_arithmetic? asked] at named
      cases named
  have grounds := Route.ofCharacters_eq_math_iff text.toList
  rw [Query.ofText, Route.ofText]
  cases route : Route.ofCharacters text.toList with
  | math => exact Or.inl ⟨rfl, rfl⟩
  | search =>
      rw [route] at grounds
      have groundless : ¬Route.HasGround text.toList := fun ground =>
        Route.noConfusion (grounds.mpr ground)
      exact Or.inr ⟨rfl, groundless, isWrittenBySign_of_named? groundless known⟩

open Calculator in
/-- The form is written with its word, and a percent sign behind it makes no difference. -/
theorem Route.ofText_of_named_percentage :
    let text := "5 процентов от 20 %"
    (∃ question, Question.ofText? text = some question ∧ question.isNamed = true) ∧
      Route.ofText text = .math ∧ Query.ofText text = .math text := by
  have asked : Question.ofText? "5 процентов от 20 %" =
      some (.percentage (Decimal.toFloat ⟨5, 0⟩) (Decimal.toFloat ⟨20, 0⟩)) := by rfl
  refine ⟨⟨_, asked, rfl⟩, ?_⟩
  rcases Route.ofText_of_named asked rfl with routed | ⟨_, groundless, _⟩
  · exact routed
  · have percentage : Route.HasPercentage "5 процентов от 20 %".toList :=
      ⟨'5', [' '], "процент".toList, by decide, by decide,
        List.forall_mem_singleton.mpr (by decide), rfl⟩
    exact absurd (Or.inr (Or.inr (Or.inl percentage))) groundless

open Calculator in
/-- A sign alone is enough for a solution, but not for the route. -/
theorem Route.ofText_of_sign :
    (solve "5!").toOption.map Solution.explanation = some "Факториал числа 5" ∧
      (Question.ofText? "5!").any Question.isNamed = true ∧ Route.ofText "5!" = .search := by
  refine ⟨?_, ?_, ?_⟩
  · decide +kernel
  · decide
  · decide +kernel

end ChatAssistant
