import ChatAssistant.Pattern
import ChatAssistant.Text.Blank
import ChatAssistant.Text.CaseFolding

/-!
The route of a question: a text with anything in it that looks like mathematics goes to the
calculator, every other text to the search.
-/

namespace ChatAssistant

inductive Route where
  | math
  | search
  deriving DecidableEq, Repr

namespace Route

open Pattern Text

def isOperationSign (char : Char) : Bool :=
  ['+', '-', '*', '/', '×', '÷'].contains char

def operation : Pattern :=
  .nonemptyRun isDecimalDigit ++ .run isBlank ++ .single isOperationSign ++ .run isBlank ++
    .nonemptyRun isDecimalDigit

def anyCase (spelling : String) : Pattern :=
  .word foldCase spelling.toList

/-- Beginnings of words that ask for a calculation. -/
def calculationStems : List String :=
  ["сколько", "вычисл", "реш", "посчита"]

def percentage : Pattern :=
  .nonemptyRun isDecimalDigit ++ .run isBlank ++ anyCase "процент"

/-- Beginnings of words that name a function. -/
def functionStems : List String :=
  ["корень", "факториал", "степен"]

def isExpressionSign (char : Char) : Bool :=
  ['+', '-', '*', '/', '×', '÷', '(', ')', '.', ',', '%', '^', '='].contains char

def isExpressionCharacter (char : Char) : Bool :=
  isDecimalDigit char || isBlank char || isExpressionSign char

def isBareExpression (text : List Char) : Bool :=
  let trimmed := trim text
  !trimmed.isEmpty && trimmed.all isExpressionCharacter

def ofCharacters (text : List Char) : Route :=
  if operation.occursIn text
      || calculationStems.any (fun stem => (anyCase stem).occursIn text)
      || percentage.occursIn text
      || functionStems.any (fun stem => (anyCase stem).occursIn text)
      || isBareExpression text then
    .math
  else .search

def ofText (text : String) : Route :=
  ofCharacters text.toList

end Route

end ChatAssistant
