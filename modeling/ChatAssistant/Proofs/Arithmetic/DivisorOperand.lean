import ChatAssistant.Proofs.Arithmetic.DivisorText

/-!
The operand behind a division sign. Found without reading the expression, it is the one that the
expression has there, and by itself it has the value that it has in the expression.
-/

namespace ChatAssistant.Arithmetic

theorem behindDivisions_getElem? (before behind : List Char) :
    (behindDivisions (before ++ '/' :: behind))[before.count '/']? = some behind := by
  induction before with
  | nil => rfl
  | cons char before ih =>
      by_cases isDivision : char = '/'
      · subst isDivision
        rw [List.cons_append, behindDivisions, List.count_cons_self, List.getElem?_cons_succ, ih]
      · rw [List.cons_append, behindDivisions_cons isDivision, List.count_cons_of_ne isDivision, ih]

variable {text before behind : List Char} {chain : Chain}

theorem startsWith_of_split (isRead : read? text = some chain)
    (split : text = before ++ '/' :: behind) :
    ∃ tail, chain.divisorTails[before.count '/']? = some tail ∧
      StartsWith behind tail.first := by
  have starts := startsWith_of_read? isRead
  have found := behindDivisions_getElem? before behind
  rw [← split] at found
  obtain ⟨place, isBehind⟩ := List.getElem?_eq_some_iff.mp found
  have inside : before.count '/' < chain.divisorTails.length := by
    rw [← starts.length_eq]
    exact place
  have startsHere := starts.get place inside
  rw [List.get_eq_getElem, List.get_eq_getElem, isBehind] at startsHere
  exact ⟨_, List.getElem?_eq_getElem inside, startsHere⟩

/-- What is taken behind a division sign of an expression is the text of the operand that is read
there: all its signs with its numeral or its group. By itself this text has the value of the
operand. -/
theorem divisorText?_of_read? (isRead : read? text = some chain)
    (split : text = before ++ '/' :: behind) :
    ∃ tail front rest, chain.divisorTails[before.count '/']? = some tail ∧
      behind = front ++ rest ∧
      readOperand (nestingLimit + 1) behind = some (tail.first, rest) ∧
      IsDivisorText front rest ∧ divisorText? behind = some front ∧
      evaluate? front = some (tail.first.value floatOperations) := by
  obtain ⟨tail, isTail, front, rest, rfl, reads, taken, alone⟩ := startsWith_of_split isRead split
  obtain ⟨operandText, parts, -, isDivisor⟩ := isOperandText_of_readOperand reads
  cases List.append_cancel_right parts
  have evaluated : evaluate? front = some (tail.first.value floatOperations) := by
    rw [evaluate?, alone]
    rfl
  exact ⟨tail, front, rest, isTail, rfl, reads, isDivisor, taken, evaluated⟩

theorem divisorText?_of_read?_nested :
    let text := "8/-+(1+(2/3)*2)/--.5*3".toList
    let behind := "-+(1+(2/3)*2)/--.5*3".toList
    ∃ chain, read? text = some chain ∧ text = "8".toList ++ '/' :: behind ∧
      ∃ tail front rest, chain.divisorTails["8".toList.count '/']? = some tail ∧
        behind = front ++ rest ∧
        readOperand (nestingLimit + 1) behind = some (tail.first, rest) ∧
        IsDivisorText front rest ∧ divisorText? behind = some front ∧
        evaluate? front = some (tail.first.value floatOperations) := by
  intro text behind
  have isExpression : (read? text).isSome = true := by decide
  obtain ⟨chain, isRead⟩ := Option.isSome_iff_exists.mp isExpression
  have split : text = "8".toList ++ '/' :: behind := by decide
  exact ⟨chain, isRead, split, divisorText?_of_read? isRead split⟩

end ChatAssistant.Arithmetic
