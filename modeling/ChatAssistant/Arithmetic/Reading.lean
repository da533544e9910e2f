import ChatAssistant.Arithmetic.Expression

/-!
Reading an expression. An operand is a literal if it begins like one, then a sign before
another operand, then a group. Text that is too long, nested too deeply or made of too many
groups or signs is refused like text that is no expression.
-/

namespace ChatAssistant.Arithmetic

inductive LiteralReading where
  | absent
  | malformed
  | read (literal : Literal) (rest : List Char)

def isNumeralCharacter (char : Char) : Bool :=
  char.isDigit || char = '.'

/-- The numeral is the whole run of digits and points; a run that is no numeral is malformed. -/
def readMagnitude (isNegative : Bool) (text : List Char) : LiteralReading :=
  let run := text.takeWhile isNumeralCharacter
  if run.isEmpty then .absent
  else
    match Decimal.ofNumeral? run with
    | some magnitude => .read ⟨isNegative, magnitude⟩ (text.dropWhile isNumeralCharacter)
    | none => .malformed

def readLiteral : List Char → LiteralReading
  | '+' :: text => readMagnitude false text
  | '-' :: text => readMagnitude true text
  | text => readMagnitude false text

def readChain (readOperand : List Char → Option (Operand × List Char)) :
    Nat → List Char → Option (Chain × List Char)
  | 0, _ => none
  | steps + 1, text =>
      match readOperand text with
      | none => none
      | some (operand, []) => some (.last operand, [])
      | some (operand, char :: rest) =>
          match Operator.ofChar? char with
          | none => some (.last operand, char :: rest)
          | some operator =>
              match readChain readOperand steps rest with
              | none => none
              | some (chain, rest) => some (.link operand operator chain, rest)

/-- Reads an operand in which signs and groups are nested less than `depth` deep. -/
def readOperand : Nat → List Char → Option (Operand × List Char)
  | 0, _ => none
  | depth + 1, text =>
      match readLiteral text with
      | .read literal rest => some (.literal literal, rest)
      | .malformed => none
      | .absent =>
          match text with
          | '+' :: text => (readOperand depth text).map fun (operand, rest) =>
              (.positive operand, rest)
          | '-' :: text => (readOperand depth text).map fun (operand, rest) =>
              (.negative operand, rest)
          | '(' :: text =>
              match readChain (readOperand depth) (text.length + 1) text with
              | some (chain, ')' :: rest) => some (.group chain, rest)
              | _ => none
          | _ => none

def lengthLimit : Nat := 4096

def nestingLimit : Nat := 32

/-- The whole expression counts as one group. -/
def groupLimit : Nat := 64

def signLimit : Nat := 64

def read? (text : List Char) : Option Chain :=
  if lengthLimit < text.length then none
  else
    match readChain (readOperand (nestingLimit + 1)) (text.length + 1) text with
    | some (chain, []) =>
        if chain.groups + 1 ≤ groupLimit ∧ chain.signs ≤ signLimit then some chain else none
    | _ => none

end ChatAssistant.Arithmetic
