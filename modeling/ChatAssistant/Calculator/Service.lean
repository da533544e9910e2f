import ChatAssistant.Backend.Answer
import ChatAssistant.Calculator.Solution

/-!
The calculator as a backend. Where it has no answer it says why; it never fails.
-/

namespace ChatAssistant.Calculator

def Amount.toJson : Amount → Json
  | .whole number => .integer number
  | .real number => .ofFloat number

def Solution.answer (solution : Solution) : MathAnswer where
  result := some solution.result.toJson
  explanation := some solution.explanation
  steps := [solution.step]

def missingExpression : String := "Expression parameter is required"

def Failure.answer (failure : Failure) : MathAnswer :=
  .failure ("Ошибка вычисления: " ++ failure.message)

def answer (text : String) : MathAnswer :=
  if text.isEmpty then .failure missingExpression
  else
    match solve text with
    | .ok solution => solution.answer
    | .error failure => failure.answer

end ChatAssistant.Calculator
