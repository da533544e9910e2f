import ChatAssistant.Arithmetic.Reading
import ChatAssistant.Decimal.FloatText

/-!
The value of an expression. A chain is worked off in five passes over all of it, one for each
operator; a pass joins the two operands beside each of its operators and leaves the others.
-/

namespace ChatAssistant.Arithmetic

structure Operations (α : Type) where
  ofDecimal : Decimal → α
  negate : α → α
  add : α → α → α
  subtract : α → α → α
  multiply : α → α → α
  divide : α → α → α
  power : α → α → α

variable {α : Type}

def Literal.value (operations : Operations α) (literal : Literal) : α :=
  if literal.isNegative then operations.negate (operations.ofDecimal literal.magnitude)
  else operations.ofDecimal literal.magnitude

/-- The first value of a chain and, behind it, each operator with the value after it. -/
abbrev Values (α : Type) := α × List (Operator × α)

def joinLeft (operator : Operator) (join : α → α → α) :
    α → List (Operator × α) → Values α
  | value, [] => (value, [])
  | value, (other, next) :: rest =>
      if other = operator then joinLeft operator join (join value next) rest
      else
        let (first, more) := joinLeft operator join next rest
        (value, (other, first) :: more)

def joinRight (operator : Operator) (join : α → α → α) :
    α → List (Operator × α) → Values α
  | value, [] => (value, [])
  | value, (other, next) :: rest =>
      let (first, more) := joinRight operator join next rest
      if other = operator then (join value first, more) else (value, (other, first) :: more)

def powersJoined (operations : Operations α) (values : Values α) : Values α :=
  joinRight .power operations.power values.1 values.2

def quotientsJoined (operations : Operations α) (values : Values α) : Values α :=
  joinLeft .divide operations.divide values.1 values.2

def productsJoined (operations : Operations α) (values : Values α) : Values α :=
  joinRight .multiply operations.multiply values.1 values.2

def differencesJoined (operations : Operations α) (values : Values α) : Values α :=
  joinLeft .subtract operations.subtract values.1 values.2

def sumsJoined (operations : Operations α) (values : Values α) : Values α :=
  joinRight .add operations.add values.1 values.2

/-- Powers first, then quotients, products, differences and sums. -/
def reduce (operations : Operations α) (values : Values α) : α :=
  (sumsJoined operations <| differencesJoined operations <| productsJoined operations <|
    quotientsJoined operations <| powersJoined operations values).1

mutual

def Operand.value (operations : Operations α) : Operand → α
  | .literal literal => literal.value operations
  | .positive operand => operand.value operations
  | .negative operand => operations.negate (operand.value operations)
  | .group chain => reduce operations (chain.values operations)

def Chain.values (operations : Operations α) : Chain → Values α
  | .last operand => (operand.value operations, [])
  | .link operand operator rest =>
      let (first, more) := rest.values operations
      (operand.value operations, (operator, first) :: more)

end

def Chain.value (operations : Operations α) (chain : Chain) : α :=
  reduce operations (chain.values operations)

/-- A number raised to a power. To the power zero every number gives one. -/
def raised (base exponent : Float) : Float :=
  if exponent == 0 then 1 else base.pow exponent

def floatOperations : Operations Float where
  ofDecimal := Decimal.toFloat
  negate := Float.neg
  add := Float.add
  subtract := Float.sub
  multiply := Float.mul
  divide := Float.div
  power := raised

def evaluate? (text : List Char) : Option Float :=
  (read? text).map (Chain.value floatOperations)

end ChatAssistant.Arithmetic
