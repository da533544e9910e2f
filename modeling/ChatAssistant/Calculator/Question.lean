import ChatAssistant.Arithmetic.Evaluation
import ChatAssistant.Pattern
import ChatAssistant.Text.Blank
import ChatAssistant.Text.Lowercase
import ChatAssistant.Text.WordCharacter

/-!
What a text asks the calculator. Four forms are named by words or signs and have operands of
their own; a text of none of these forms asks for the value of the arithmetic left in it when
all else is taken away.
-/

namespace ChatAssistant.Calculator

open Pattern Text

inductive Question where
  | squareRoot (radicand : Float)
  | factorial (number : Nat)
  | percentage (percent base : Float)
  | power (base exponent : Float)
  | arithmetic (expression : List Char)

def mentions (word : String) (text : List Char) : Bool :=
  (Pattern.word id word.toList).occursIn text

def spelled (word : String) : Pattern :=
  .word id word.toList

def blanks : Pattern := .run isBlank

def someBlanks : Pattern := .nonemptyRun isBlank

/-- A numeral is read only if all its digits are those of ASCII. -/
def number? (numeral : List Char) : Option Float :=
  (Decimal.ofNumeral? numeral).map Decimal.toFloat

def wholeNumberLimit : Nat := UInt64.size

def wholeNumber? (numeral : List Char) : Option Nat :=
  if numeral.all Char.isDigit && !numeral.isEmpty && Decimal.ofDigits numeral < wholeNumberLimit
  then some (Decimal.ofDigits numeral)
  else none

/-- What is asked of the numbers at the first place in the text where the form is met. A text with
none of the words is not searched, and every number of that place has to be read. -/
def askedByNumbers? (words : List String) (form : List Piece)
    (ask? : List Float → Option Question) (text : List Char) : Option Question :=
  if words.any (mentions · text) then
    ((operands? form text).bind (List.mapM number?)).bind ask?
  else none

/-- The words for a square root, or its name with or without a parenthesis. -/
def squareRootForm : List Piece :=
  [.skip (.either
      (.optional (spelled "квадратный" ++ someBlanks) ++ spelled "корень" ++ someBlanks ++
        .optional (spelled "из" ++ someBlanks))
      (spelled "sqrt" ++ blanks ++ .optional (spelled "(") ++ blanks)),
    .operand .numeral]

def askRoot? : List Float → Option Question
  | [radicand] => some (.squareRoot radicand)
  | _ => none

def squareRoot? : List Char → Option Question :=
  askedByNumbers? ["корень", "sqrt"] squareRootForm askRoot?

def factorialSignForm : List Piece :=
  [.operand (.nonemptyRun isDecimalDigit), .skip (blanks ++ spelled "!")]

def factorialWordForm : List Piece :=
  [.skip (spelled "факториал" ++ .run isWordCharacter ++ someBlanks),
    .operand (.nonemptyRun isDecimalDigit)]

/-- The form with the word is tried only where the form with the sign is not met. -/
def factorialOperands? (text : List Char) : Option (List (List Char)) :=
  (operands? factorialSignForm text).or (operands? factorialWordForm text)

def factorial? (text : List Char) : Option Question :=
  if mentions "факториал" text || mentions "!" text then
    match factorialOperands? text with
    | some [number] => (wholeNumber? number).map .factorial
    | _ => none
  else none

/-- A number, the sign or the word for percent, perhaps a preposition, and a number. -/
def percentageForm : List Piece :=
  [.operand .numeral,
    .skip (blanks ++ .either (spelled "%") (spelled "процент" ++ .run isWordCharacter) ++
      blanks ++ .optional (.either (spelled "от") (spelled "из")) ++ blanks),
    .operand .numeral]

def askPercentage? : List Float → Option Question
  | [percent, base] => some (.percentage percent base)
  | _ => none

def percentage? : List Char → Option Question :=
  askedByNumbers? ["процент", "%"] percentageForm askPercentage?

def powerForm : List Piece :=
  [.operand .numeral,
    .skip (blanks ++ spelled "в" ++ someBlanks ++ spelled "степени" ++ blanks),
    .operand .numeral]

def askPower? : List Float → Option Question
  | [base, exponent] => some (.power base exponent)
  | _ => none

def power? : List Char → Option Question :=
  askedByNumbers? ["степен"] powerForm askPower?

/-- The letters that look like a multiplication sign stand for one. -/
def letterTimesReplaced (char : Char) : Char :=
  if char = 'х' ∨ char = 'x' then '*' else char

def isLetterOrBlank (char : Char) : Bool :=
  ('а' ≤ char && char ≤ 'я') || ('А' ≤ char && char ≤ 'Я') || char = 'ё' || char = 'Ё' ||
    isBlank char

def isArithmeticCharacter (char : Char) : Bool :=
  char.isDigit || ['+', '-', '*', '/', '(', ')', '.', '^'].contains char

/-- The arithmetic in a text: words and white space go first, then all that is left and has no
part in arithmetic. -/
def arithmeticOf (text : List Char) : List Char :=
  ((text.map letterTimesReplaced).filter fun char => !isLetterOrBlank char).filter
    isArithmeticCharacter

def arithmetic? (text : List Char) : Option Question :=
  let expression := arithmeticOf text
  if expression.isEmpty then none else some (.arithmetic expression)

def signReplaced (char : Char) : Char :=
  if char = '×' then '*' else if char = '÷' then '/' else char

/-- The form in which a text is read: lower case, no white space around it, and the signs of
arithmetic for those of handwriting. -/
def normalized (text : List Char) : List Char :=
  (trim (lowercase text)).map signReplaced

/-- The first of the forms, in this order, that the text has. -/
def questionIn (text : List Char) : Option Question :=
  (squareRoot? text).or <| (factorial? text).or <| (percentage? text).or <| (power? text).or <|
    arithmetic? text

def Question.ofText? (text : String) : Option Question :=
  questionIn (normalized text.toList)

end ChatAssistant.Calculator
