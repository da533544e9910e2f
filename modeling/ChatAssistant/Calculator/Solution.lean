import ChatAssistant.Arithmetic.Divisor
import ChatAssistant.Calculator.Question

/-!
Answers of the calculator, and the reasons for which there is none.
-/

namespace ChatAssistant.Calculator

inductive Failure where
  | divisionByZero
  | factorialTooLarge
  | exponentTooLarge
  | overflow
  | unrecognized
  /-- The text holds arithmetic without a value. -/
  | unevaluable (text : String)
  deriving DecidableEq, Repr

def Failure.message : Failure → String
  | .divisionByZero => "Деление на ноль"
  | .factorialTooLarge => "Факториал слишком большого числа (max 20)"
  | .exponentTooLarge => "Степень слишком большая (max 100)"
  | .overflow => "Результат слишком большой"
  | .unrecognized => "Не удалось распознать математическое выражение"
  | .unevaluable text => "Не удалось вычислить выражение: " ++ text

/-- A result: factorials are whole numbers, all others are floating-point numbers. -/
inductive Amount where
  | whole (number : Nat)
  | real (number : Float)

structure Solution where
  result : Amount
  explanation : String
  step : String

def shown (number : Float) : String :=
  String.ofList (Decimal.shown number)

def largestFactorial : Nat := 20

def largestExponent : Float := 100

def factorial : Nat → Nat
  | 0 => 1
  | number + 1 => (number + 1) * factorial number

def finite (number : Float) : Except Failure Float :=
  if number.isFinite then .ok number else .error .overflow

def solveSquareRoot (radicand : Float) : Except Failure Solution := do
  let result ← finite radicand.sqrt
  return {
    result := .real result
    explanation := "Квадратный корень из " ++ shown radicand
    step := "√" ++ shown radicand ++ " = " ++ shown result }

def solveFactorial (number : Nat) : Except Failure Solution :=
  if largestFactorial < number then .error .factorialTooLarge
  else .ok {
    result := .whole (factorial number)
    explanation := "Факториал числа " ++ toString number
    step := toString number ++ "! = " ++ toString (factorial number) }

def solvePercentage (percent base : Float) : Except Failure Solution := do
  let result ← finite (percent * base / 100)
  let explanation := shown percent ++ "% от " ++ shown base
  return {
    result := .real result
    explanation
    step := explanation ++ " = (" ++ shown percent ++ "/100) × " ++ shown base ++ " = " ++
      shown result }

def solvePower (base exponent : Float) : Except Failure Solution := do
  if largestExponent < exponent then throw .exponentTooLarge
  let result ← finite (Arithmetic.raised base exponent)
  return {
    result := .real result
    explanation := shown base ++ " в степени " ++ shown exponent
    step := shown base ++ "^" ++ shown exponent ++ " = " ++ shown result }

/-- An infinite value is laid to a division by zero if there is one to be seen. -/
def solveArithmetic (text : String) (expression : List Char) : Except Failure Solution :=
  match Arithmetic.evaluate? expression with
  | none => .error (.unevaluable text)
  | some result =>
      if result.isInf then
        .error (if Arithmetic.hasZeroDivisor expression then .divisionByZero else .overflow)
      else if result.isNaN then .error (.unevaluable text)
      else .ok {
        result := .real result
        explanation := "Результат вычисления: " ++ String.ofList expression
        step := String.ofList expression ++ " = " ++ shown result }

def Question.solve (text : String) : Question → Except Failure Solution
  | .squareRoot radicand => solveSquareRoot radicand
  | .factorial number => solveFactorial number
  | .percentage percent base => solvePercentage percent base
  | .power base exponent => solvePower base exponent
  | .arithmetic expression => solveArithmetic text expression

def solve (text : String) : Except Failure Solution :=
  match Question.ofText? text with
  | none => .error .unrecognized
  | some question => question.solve text

end ChatAssistant.Calculator
