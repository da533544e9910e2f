import ChatAssistant.Decimal.Basic

/-!
Arithmetic expressions as they are written. Operands stand in a flat chain with an operator
between each two; a group in parentheses is an operand that holds a chain of its own.
-/

namespace ChatAssistant.Arithmetic

inductive Operator where
  | add
  | subtract
  | multiply
  | divide
  | power
  deriving DecidableEq, Repr

def Operator.ofChar? : Char → Option Operator
  | '+' => some .add
  | '-' => some .subtract
  | '*' => some .multiply
  | '/' => some .divide
  | '^' => some .power
  | _ => none

/-- A numeral together with the one sign that stands directly before it. -/
structure Literal where
  isNegative : Bool
  magnitude : Decimal
  deriving DecidableEq, Repr

mutual

inductive Operand where
  | literal (literal : Literal)
  | positive (operand : Operand)
  | negative (operand : Operand)
  | group (chain : Chain)

inductive Chain where
  | last (operand : Operand)
  | link (operand : Operand) (operator : Operator) (rest : Chain)

end

mutual

def Operand.groups : Operand → Nat
  | .literal _ => 0
  | .positive operand => operand.groups
  | .negative operand => operand.groups
  | .group chain => chain.groups + 1

def Chain.groups : Chain → Nat
  | .last operand => operand.groups
  | .link operand _ rest => operand.groups + rest.groups

end

mutual

/-- The number of signs that are not part of a literal. -/
def Operand.signs : Operand → Nat
  | .literal _ => 0
  | .positive operand => operand.signs + 1
  | .negative operand => operand.signs + 1
  | .group chain => chain.signs

def Chain.signs : Chain → Nat
  | .last operand => operand.signs
  | .link operand _ rest => operand.signs + rest.signs

end

end ChatAssistant.Arithmetic
