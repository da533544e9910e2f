import ChatAssistant.Arithmetic.Evaluation

/-!
The divisors in the text of an expression, found without reading the expression.
-/

namespace ChatAssistant.Arithmetic

def isSign (char : Char) : Bool :=
  char = '+' || char = '-'

/-- The length of a group: up to the parenthesis that closes the first one. -/
def groupLength? (opened : Nat) : List Char → Option Nat
  | [] => none
  | '(' :: text => (groupLength? (opened + 1) text).map (· + 1)
  | ')' :: text => if opened ≤ 1 then some 1 else (groupLength? (opened - 1) text).map (· + 1)
  | _ :: text => (groupLength? opened text).map (· + 1)

/-- The operand at the front of the text behind a division sign: any signs, then a group or a
run of digits and points. -/
def divisorText? (text : List Char) : Option (List Char) :=
  let signs := text.takeWhile isSign
  let unsigned := text.dropWhile isSign
  match unsigned with
  | '(' :: _ => (groupLength? 0 unsigned).map fun length => signs ++ unsigned.take length
  | _ =>
      let run := unsigned.takeWhile isNumeralCharacter
      if run.isEmpty then none else some (signs ++ run)

def isZeroDivisor (text : List Char) : Bool :=
  match (divisorText? text).bind evaluate? with
  | some value => value == 0
  | none => false

/-- Whether the operand behind some division sign, taken by itself, is zero. -/
def hasZeroDivisor : List Char → Bool
  | [] => false
  | '/' :: text => isZeroDivisor text || hasZeroDivisor text
  | _ :: text => hasZeroDivisor text

end ChatAssistant.Arithmetic
