import ChatAssistant.Calculator.Solution
import ChatAssistant.Proofs.Arithmetic.DivisorText
import ChatAssistant.Proofs.Calculator.Recognition

/-!
When an infinite value is laid to a division by zero. The calculator looks at the operand directly
behind each division sign. The evaluation divides by that operand raised to the powers behind it,
which may be zero where the operand is not, and may not be zero where the operand is.
-/

namespace ChatAssistant.Arithmetic

def Chain.dividesByZero (chain : Chain) : Bool :=
  (chain.divisors floatOperations).any (· == 0)

def Chain.hasZeroBehindDivision (chain : Chain) : Bool :=
  chain.divisorTails.any fun tail => tail.first.value floatOperations == 0

def Chain.isPower : Chain → Bool
  | .last _ => false
  | .link _ operator _ => operator = .power

theorem Chain.raisedFirst_of_unpowered {α : Type} (operations : Operations α) {chain : Chain}
    (unpowered : chain.isPower = false) :
    chain.raisedFirst operations = chain.first.value operations := by
  cases chain with
  | last operand => rfl
  | link operand operator rest =>
      have apart : operator ≠ .power := of_decide_eq_false unpowered
      rw [raisedFirst, powersJoined_link, if_neg apart]
      rfl

theorem Chain.dividesByZero_iff (chain : Chain) :
    chain.dividesByZero = true ↔
      ∃ tail ∈ chain.divisorTails, (tail.raisedFirst floatOperations == 0) = true := by
  rw [dividesByZero, List.any_eq_true]
  constructor
  · rintro ⟨divisor, member, isZero⟩
    obtain ⟨tail, inside, rfl⟩ := (chain.mem_divisors_iff floatOperations divisor).mp member
    exact ⟨tail, inside, isZero⟩
  · rintro ⟨tail, inside, isZero⟩
    exact ⟨_, (chain.mem_divisors_iff floatOperations _).mpr ⟨tail, inside, rfl⟩, isZero⟩

theorem Chain.hasZeroBehindDivision_of_unpowered {chain : Chain}
    (unpowered : ∀ tail ∈ chain.divisorTails, tail.isPower = false) :
    chain.hasZeroBehindDivision = chain.dividesByZero := by
  rw [Bool.eq_iff_iff, dividesByZero_iff, hasZeroBehindDivision, List.any_eq_true]
  apply exists_congr
  intro tail
  apply and_congr_right
  intro member
  rw [raisedFirst_of_unpowered _ (unpowered tail member)]

end ChatAssistant.Arithmetic

namespace ChatAssistant.Calculator

open Arithmetic

section Infinite

variable {text : String} {expression : List Char} {chain : Chain}

theorem solve_of_infinite (asked : Question.ofText? text = some (.arithmetic expression))
    (isRead : read? expression = some chain)
    (infinite : (chain.value floatOperations).isInf = true) :
    solve text =
      .error (if chain.hasZeroBehindDivision then .divisionByZero else .overflow) := by
  have evaluated : evaluate? expression = some (chain.value floatOperations) := by
    rw [evaluate?, isRead, Option.map_some]
  rw [solve, asked]
  dsimp only [Question.solve]
  rw [solveArithmetic, evaluated]
  dsimp only
  rw [if_pos infinite, hasZeroDivisor_of_read? isRead]
  rfl

/-- An infinite value is a division by zero if an operand directly behind a division sign is zero,
else an overflow. This is right exactly where such an operand is zero if and only if a divisor is
zero, and so wherever none of these operands is raised to a power. -/
theorem solve_infinite (asked : Question.ofText? text = some (.arithmetic expression))
    (isRead : read? expression = some chain)
    (infinite : (chain.value floatOperations).isInf = true) :
    solve text =
        .error (if chain.hasZeroBehindDivision then .divisionByZero else .overflow) ∧
      (solve text = .error (if chain.dividesByZero then .divisionByZero else .overflow) ↔
        chain.hasZeroBehindDivision = chain.dividesByZero) ∧
      ((∀ tail ∈ chain.divisorTails, tail.isPower = false) →
        solve text = .error (if chain.dividesByZero then .divisionByZero else .overflow)) := by
  have solved := solve_of_infinite asked isRead infinite
  refine ⟨solved, ?_, ?_⟩
  · rw [solved]
    cases chain.hasZeroBehindDivision <;> cases chain.dividesByZero <;> simp
  · intro unpowered
    rw [solved, Chain.hasZeroBehindDivision_of_unpowered unpowered]

end Infinite

theorem solve_infinite_quotient :
    ∃ chain, Question.ofText? "1/0" = some (.arithmetic "1/0".toList) ∧
      read? "1/0".toList = some chain ∧ (chain.value floatOperations).isInf = true ∧
      solve "1/0" =
          .error (if chain.hasZeroBehindDivision then .divisionByZero else .overflow) ∧
        (solve "1/0" = .error (if chain.dividesByZero then .divisionByZero else .overflow) ↔
          chain.hasZeroBehindDivision = chain.dividesByZero) ∧
        ((∀ tail ∈ chain.divisorTails, tail.isPower = false) →
          solve "1/0" = .error (if chain.dividesByZero then .divisionByZero else .overflow)) := by
  have asked : Question.ofText? "1/0" = some (.arithmetic "1/0".toList) := by rfl
  have isEvaluated : (read? "1/0".toList).map (fun chain =>
      (chain.value floatOperations).isInf) = some true := by
    decide
  obtain ⟨chain, isRead, infinite⟩ := Option.map_eq_some_iff.mp isEvaluated
  exact ⟨chain, asked, isRead, infinite, solve_infinite asked isRead infinite⟩

/-- A number beyond all others, divided by the power `0^0`. -/
def infinityByOne : List Char :=
  '1' :: (List.replicate 309 '0' ++ ['/', '0', '^', '0'])

set_option maxRecDepth 4000 in
/-- The only divisor is one, but the operand behind the division sign is zero. -/
theorem solve_infinity_by_one :
    ∃ chain, Question.ofText? (String.ofList infinityByOne) = some (.arithmetic infinityByOne) ∧
      read? infinityByOne = some chain ∧ (chain.value floatOperations).isInf = true ∧
      chain.dividesByZero = false ∧
      solve (String.ofList infinityByOne) = .error .divisionByZero := by
  have unnamed : named? (normalized infinityByOne) = none := by
    rw [← Option.isNone_iff_eq_none]
    decide
  have cleaned : arithmeticOf (normalized infinityByOne) = infinityByOne := by
    decide
  have asked : Question.ofText? (String.ofList infinityByOne) =
      some (.arithmetic infinityByOne) := by
    rw [Question.ofText?, String.toList_ofList, questionIn_eq, unnamed, Option.none_or,
      arithmetic?, cleaned]
    rfl
  have isEvaluated : (read? infinityByOne).map (fun chain =>
      ((chain.value floatOperations).isInf, chain.dividesByZero, chain.hasZeroBehindDivision)) =
        some (true, false, true) := by
    decide +kernel
  obtain ⟨chain, isRead, results⟩ := Option.map_eq_some_iff.mp isEvaluated
  rw [Prod.mk.injEq, Prod.mk.injEq] at results
  obtain ⟨infinite, undivided, seen⟩ := results
  refine ⟨chain, asked, isRead, infinite, undivided, ?_⟩
  rw [solve_of_infinite asked isRead infinite, seen]
  rfl

end ChatAssistant.Calculator
