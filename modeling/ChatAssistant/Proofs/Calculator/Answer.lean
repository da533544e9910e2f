import ChatAssistant.Calculator.Service
import ChatAssistant.Proofs.Calculator.Recognition
import ChatAssistant.Proofs.Decimal.Shown
import ChatAssistant.Reply

/-!
What the calculator answers, and what is said of it. A result is made twice into text, once for the
step and once from the answer that travels; both are the same, since only finite numbers get so far.
-/

namespace ChatAssistant

def Json.IsNumber : Json → Prop
  | .integer _ => True
  | .real number => number.isFinite = true
  | _ => False

namespace Calculator

def behindLast? (mark : List Char) : List Char → Option (List Char)
  | [] => none
  | char :: text =>
      (behindLast? mark text).or
        (if mark.isPrefixOf (char :: text) then some ((char :: text).drop mark.length) else none)

def equalsMark : List Char := [' ', '=', ' ']

theorem behindLast?_of_plain {text : List Char} (plain : '=' ∉ text) :
    behindLast? equalsMark text = none := by
  induction text with
  | nil => rfl
  | cons char text ih =>
      rw [List.mem_cons, not_or] at plain
      have unmarked : ¬equalsMark.isPrefixOf (char :: text) = true := by
        rw [List.isPrefixOf_iff_prefix, equalsMark, List.cons_prefix_cons]
        rintro ⟨_, start⟩
        exact plain.2 (start.subset List.mem_cons_self)
      rw [behindLast?, ih plain.2, if_neg unmarked]
      rfl

theorem behindLast?_append (front : List Char) {shown : List Char} (plain : '=' ∉ shown) :
    behindLast? equalsMark (front ++ (equalsMark ++ shown)) = some shown := by
  have blank : behindLast? equalsMark (' ' :: shown) = none := by
    apply behindLast?_of_plain
    rw [List.mem_cons, not_or]
    exact ⟨by decide, plain⟩
  induction front with
  | nil =>
      -- The mark itself is the last one, since a blank and an equals sign are no beginning of it.
      have inner : behindLast? equalsMark ('=' :: ' ' :: shown) = none := by
        rw [behindLast?, blank]
        rfl
      have outer : behindLast? equalsMark (' ' :: '=' :: ' ' :: shown) = some shown := by
        rw [behindLast?, inner]
        rfl
      exact outer
  | cons char front ih => rw [List.cons_append, behindLast?, ih, Option.some_or]

theorem isFinite_of_not {number : Float} (bounded : ¬number.isInf = true)
    (defined : ¬number.isNaN = true) : number.isFinite = true := by
  unfold Float.isInf Float.Model.isInf at bounded
  unfold Float.isNaN Float.Model.isNaN at defined
  unfold Float.isFinite Float.Model.isFinite
  cases unpacked : number.toModel.unpack with
  | infinity sign =>
      rw [unpacked] at bounded
      exact absurd rfl bounded
  | notANumber =>
      rw [unpacked] at defined
      exact absurd rfl defined
  | zero sign => rfl
  | finite sign significand exponent positive => rfl

namespace Amount

def IsFinite : Amount → Prop
  | .whole _ => True
  | .real number => number.isFinite = true

def text : Amount → String
  | .whole number => toString number
  | .real number => shown number

variable {amount : Amount}

theorem isNumber_toJson (finite : amount.IsFinite) : amount.toJson.IsNumber := by
  cases amount with
  | whole number => trivial
  | real number =>
      have written : Json.ofFloat number = .real number := if_pos finite
      rw [toJson, written]
      exact finite

/-- The answer is shown by the same text that stands in the step. -/
theorem resultText_toJson (finite : amount.IsFinite) :
    Reply.resultText amount.toJson = amount.text := by
  cases amount with
  | whole number => rfl
  | real number =>
      have written : Json.ofFloat number = .real number := if_pos finite
      rw [toJson, written]
      rfl

theorem not_mem_text (finite : amount.IsFinite) : '=' ∉ amount.text.toList := by
  have noNumber : ¬Decimal.IsNumberCharacter '=' := by
    unfold Decimal.IsNumberCharacter
    decide
  intro member
  cases amount with
  | whole number =>
      change '=' ∈ (String.ofList (Decimal.digits number)).toList at member
      rw [String.toList_ofList] at member
      exact noNumber (Decimal.forall_mem_digits number '=' member)
  | real number =>
      rw [text, shown, String.toList_ofList] at member
      exact noNumber (Decimal.forall_mem_shown finite '=' member)

end Amount

def Solution.IsShown (solution : Solution) : Prop :=
  solution.result.IsFinite ∧ ∃ front, solution.step = front ++ " = " ++ solution.result.text

theorem finite_eq_ok {number result : Float} (kept : finite number = .ok result) :
    result = number ∧ number.isFinite = true := by
  unfold finite at kept
  split at kept
  · rename_i isFinite
    cases kept
    exact ⟨rfl, isFinite⟩
  · cases kept

theorem finite_bind_eq_ok {number : Float} {next : Float → Except Failure Solution}
    {solution : Solution} (solved : (finite number >>= next) = .ok solution) :
    number.isFinite = true ∧ next number = .ok solution := by
  cases kept : finite number with
  | error failure =>
      rw [kept] at solved
      cases solved
  | ok result =>
      obtain ⟨rfl, isFinite⟩ := finite_eq_ok kept
      rw [kept] at solved
      exact ⟨isFinite, solved⟩

section Branches

variable {solution : Solution}

theorem isShown_of_squareRoot {radicand : Float}
    (solved : solveSquareRoot radicand = .ok solution) : solution.IsShown := by
  obtain ⟨isFinite, built⟩ := finite_bind_eq_ok solved
  cases built
  exact ⟨isFinite, _, rfl⟩

theorem isShown_of_factorial {number : Nat}
    (solved : solveFactorial number = .ok solution) : solution.IsShown := by
  unfold solveFactorial at solved
  split at solved
  · cases solved
  · cases solved
    have mark : "! = " = "!" ++ " = " := rfl
    refine ⟨trivial, toString number ++ "!", ?_⟩
    rw [mark, ← String.append_assoc]
    rfl

theorem isShown_of_percentage {percent base : Float}
    (solved : solvePercentage percent base = .ok solution) : solution.IsShown := by
  obtain ⟨isFinite, built⟩ := finite_bind_eq_ok solved
  cases built
  exact ⟨isFinite, _, rfl⟩

theorem isShown_of_power {base exponent : Float}
    (solved : solvePower base exponent = .ok solution) : solution.IsShown := by
  unfold solvePower at solved
  split at solved
  · cases solved
  · obtain ⟨isFinite, built⟩ := finite_bind_eq_ok solved
    cases built
    exact ⟨isFinite, _, rfl⟩

theorem isShown_of_arithmetic {text : String} {expression : List Char}
    (solved : solveArithmetic text expression = .ok solution) : solution.IsShown := by
  obtain ⟨result, _, bounded, defined, rfl⟩ := (solveArithmetic_eq_ok_iff _ _ _).mp solved
  exact ⟨isFinite_of_not bounded defined, _, rfl⟩

theorem isShown_of_solve {text : String} (solved : solve text = .ok solution) :
    solution.IsShown := by
  obtain ⟨question, _, answered⟩ := (solve_eq_ok_iff text solution).mp solved
  cases question with
  | squareRoot radicand => exact isShown_of_squareRoot answered
  | factorial number => exact isShown_of_factorial answered
  | percentage percent base => exact isShown_of_percentage answered
  | power base exponent => exact isShown_of_power answered
  | arithmetic expression => exact isShown_of_arithmetic answered

end Branches

theorem ofMathAnswer_of_isShown {solution : Solution} (isShown : solution.IsShown) :
    Reply.ofMathAnswer solution.answer =
      { content := solution.explanation ++ "\n\nОтвет: " ++ solution.result.text ++
          "\n\nРешение:\n" ++ solution.step } := by
  have isNumber := Amount.isNumber_toJson isShown.1
  have told : Reply.ofMathAnswer solution.answer =
      Reply.solved solution.answer solution.result.toJson := by
    unfold Reply.ofMathAnswer
    split
    · rename_i absent
      cases absent
    · rename_i null
      rw [Option.some.inj null] at isNumber
      exact isNumber.elim
    · rename_i result present
      rw [Option.some.inj present]
  have steps : Reply.stepsText [solution.step] = "\n\nРешение:\n" ++ solution.step := rfl
  rw [told, Reply.solved, Amount.resultText_toJson isShown.1]
  change Reply.mk (solution.explanation ++ _ ++ _ ++ Reply.stepsText [solution.step]) none = _
  rw [steps, ← String.append_assoc]

theorem ofMathAnswer_failure {error : String} (some : error ≠ "") :
    Reply.ofMathAnswer (.failure error) = { content := error } := by
  have filled : ¬error.isEmpty = true := fun empty => some (String.isEmpty_iff.mp empty)
  change Reply.mk (if error.isEmpty then Reply.calculationFailure else error) none = _
  rw [if_neg filled]

theorem ne_calculationFailure_of_lines {content : String} (lines : '\n' ∈ content.toList) :
    content ≠ Reply.calculationFailure := by
  rintro rfl
  exact absurd lines (by decide)

theorem error_ne_calculationFailure {error : String}
    (worded : error = missingExpression ∨ ∃ message, error = "Ошибка вычисления: " ++ message) :
    error ≠ "" ∧ error ≠ Reply.calculationFailure := by
  rcases worded with rfl | ⟨message, rfl⟩
  · exact ⟨by decide, by decide⟩
  · have first : ("Ошибка вычисления: " ++ message).toList.head? = some 'О' := by
      have opening : "Ошибка вычисления: ".toList.head? = some 'О' := by decide
      rw [String.toList_append, List.head?_append, opening, Option.some_or]
    constructor
    · intro empty
      rw [empty] at first
      cases first
    · intro same
      rw [same] at first
      exact absurd first (by decide)

theorem answer_cases (text : String) :
    (∃ solution, solve text = .ok solution ∧ answer text = solution.answer) ∨
    ∃ error, answer text = .failure error ∧ (∀ solution, solve text ≠ .ok solution) ∧
      (error = missingExpression ∨ ∃ message, error = "Ошибка вычисления: " ++ message) := by
  unfold answer
  split
  · rename_i empty
    have unsolved : solve "" = .error .unrecognized := rfl
    rw [String.isEmpty_iff] at empty
    subst empty
    refine Or.inr ⟨_, rfl, ?_, Or.inl rfl⟩
    intro solution solved
    rw [unsolved] at solved
    cases solved
  · split
    · rename_i solution solved
      exact Or.inl ⟨solution, solved, rfl⟩
    · rename_i failure failed
      refine Or.inr ⟨_, rfl, ?_, Or.inr ⟨failure.message, rfl⟩⟩
      intro solution solved
      rw [failed] at solved
      cases solved

/-- Each answer holds a result or an error, and a result exactly if the text is solved. A result is
a number, with a single step that ends with the number as the reader is told it; an error has words,
and the reader is told these words. The words for an answer without either are never needed. -/
theorem answer_told (text : String) :
    let answer := answer text
    let reply := Reply.ofMathAnswer answer
    (answer.result.isSome = true ↔ ∃ solution, solve text = .ok solution) ∧
    answer.error.isSome = !answer.result.isSome ∧
    (∀ result, answer.result = some result → result.IsNumber ∧
      ∃ explanation step shown, answer.explanation = some explanation ∧ answer.steps = [step] ∧
        behindLast? equalsMark step.toList = some shown.toList ∧
        reply = { content := explanation ++ "\n\nОтвет: " ++ shown ++ "\n\nРешение:\n" ++ step }) ∧
    (∀ error, answer.error = some error → error ≠ "" ∧ reply = { content := error }) ∧
    reply.content ≠ Reply.calculationFailure := by
  intro answer reply
  rcases answer_cases text with ⟨solution, solved, answered⟩ | ⟨error, answered, unsolved, worded⟩
  · have told : reply = _ := (congrArg Reply.ofMathAnswer answered).trans
      (ofMathAnswer_of_isShown (isShown_of_solve solved))
    obtain ⟨isFinite, front, step⟩ := isShown_of_solve solved
    have closing : behindLast? equalsMark solution.step.toList =
        some solution.result.text.toList := by
      rw [step, String.toList_append, String.toList_append, List.append_assoc]
      exact behindLast?_append front.toList (Amount.not_mem_text isFinite)
    simp only [answer, answered]
    refine ⟨iff_of_true rfl ⟨solution, solved⟩, rfl, ?_, ?_, ?_⟩
    · rintro result ⟨⟩
      exact ⟨Amount.isNumber_toJson isFinite, _, _, _, rfl, rfl, closing, told⟩
    · rintro error ⟨⟩
    · rw [told]
      apply ne_calculationFailure_of_lines
      simp
  · obtain ⟨some, other⟩ := error_ne_calculationFailure worded
    have told : reply = _ := (congrArg Reply.ofMathAnswer answered).trans
      (ofMathAnswer_failure some)
    simp only [answer, answered]
    refine ⟨?_, rfl, ?_, ?_, ?_⟩
    · apply iff_of_false Bool.false_ne_true
      rintro ⟨solution, solved⟩
      exact unsolved solution solved
    · rintro result ⟨⟩
    · rintro error ⟨⟩
      exact ⟨some, told⟩
    · rw [told]
      exact other

theorem answer_told_negativeZero :
    (answer "-0").result.isSome = true ∧ (answer "-0").steps = ["-0 = 0"] ∧
      ∃ explanation, Reply.ofMathAnswer (answer "-0") =
        { content := explanation ++ "\n\nОтвет: 0\n\nРешение:\n-0 = 0" } := by
  have present : (answer "-0").result.isSome = true := by decide +kernel
  have steps : (answer "-0").steps = ["-0 = 0"] := by decide +kernel
  refine ⟨present, steps, ?_⟩
  obtain ⟨result, found⟩ := Option.isSome_iff_exists.mp present
  obtain ⟨_, explanation, step, shown, _, single, closing, told⟩ :=
    (answer_told "-0").2.2.1 result found
  rw [steps, List.cons.injEq] at single
  rw [← single.1] at closing told
  have zero : shown = "0" := by
    have last : behindLast? equalsMark "-0 = 0".toList = some "0".toList := by decide +kernel
    rw [last, Option.some.injEq] at closing
    exact (String.toList_inj.mp closing).symm
  refine ⟨explanation, told.trans ?_⟩
  rw [zero, String.append_assoc, String.append_assoc, String.append_assoc]
  rfl

end Calculator

end ChatAssistant
