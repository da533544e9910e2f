import ChatAssistant.Proofs.Arithmetic.Conventional
import Mathlib.Data.List.Basic

/-!
Reading an expression against the usual reading of it. What is read is a row of operands, each with
the value of its text; and whatever has a value in the usual reading is read as such a row.
-/

namespace ChatAssistant.Arithmetic

variable {α : Type}

theorem characters_of_isNumeral {text : List Char} {decimal : Decimal}
    (isNumeral : Decimal.ofNumeral? text = some decimal) :
    text ≠ [] ∧ ∀ char ∈ text, isNumeralCharacter char = true := by
  unfold Decimal.ofNumeral? at isNumeral
  dsimp only at isNumeral
  split at isNumeral
  · rename_i digits
    rw [Bool.and_eq_true, List.all_append, Bool.and_eq_true, List.all_eq_true, List.all_eq_true]
      at digits
    constructor
    · rintro rfl
      exact absurd digits.2 (by decide)
    · intro char member
      unfold isNumeralCharacter
      rw [Bool.or_eq_true, decide_eq_true_eq]
      by_cases isPoint : char = '.'
      · exact .inr isPoint
      refine .inl ?_
      have parts : text = text.takeWhile (· ≠ '.') ++ text.dropWhile (· ≠ '.') :=
        List.takeWhile_append_dropWhile.symm
      rw [parts, List.mem_append] at member
      rcases member with whole | behind
      · exact digits.1.1 char whole
      · refine digits.1.2 char ?_
        have point := List.head?_dropWhile_not (· ≠ '.') text
        cases fraction : text.dropWhile (· ≠ '.') with
        | nil =>
            rw [fraction] at behind
            cases behind
        | cons first places =>
            rw [fraction] at behind point
            have isFirst : first = '.' := by simpa using point
            rcases List.mem_cons.mp behind with rfl | member
            · exact absurd isFirst isPoint
            · exact member
  · cases isNumeral

def NoNumeralNext (text : List Char) : Prop :=
  ∀ char ∈ text.head?, isNumeralCharacter char = false

theorem readMagnitude_absent {text : List Char} (next : NoNumeralNext text) (isNegative : Bool) :
    readMagnitude isNegative text = .absent := by
  have empty : text.takeWhile isNumeralCharacter = [] := by
    cases text with
    | nil => rfl
    | cons char text => exact List.takeWhile_cons_of_neg (by simp [next char rfl])
  unfold readMagnitude
  rw [empty]
  rfl

theorem takeWhile_run {run : List Char}
    (characters : ∀ char ∈ run, isNumeralCharacter char = true) {rest : List Char}
    (next : NoNumeralNext rest) : (run ++ rest).takeWhile isNumeralCharacter = run := by
  rw [List.takeWhile_append_of_pos characters]
  cases rest with
  | nil => exact List.append_nil run
  | cons char rest =>
      have apart : ¬ isNumeralCharacter char = true := by simp [next char rfl]
      rw [List.takeWhile_cons_of_neg apart, List.append_nil]

theorem readMagnitude_read {run : List Char} {magnitude : Decimal}
    (isNumeral : Decimal.ofNumeral? run = some magnitude) {rest : List Char}
    (next : NoNumeralNext rest) (isNegative : Bool) :
    readMagnitude isNegative (run ++ rest) = .read ⟨isNegative, magnitude⟩ rest := by
  obtain ⟨nonempty, characters⟩ := characters_of_isNumeral isNumeral
  have taken := takeWhile_run characters next
  have dropped : (run ++ rest).dropWhile isNumeralCharacter = rest := by
    have parts := List.takeWhile_append_dropWhile (p := isNumeralCharacter) (l := run ++ rest)
    rw [taken] at parts
    exact List.append_cancel_left parts
  unfold readMagnitude
  simp only [taken, dropped, isNumeral, List.isEmpty_eq_false_iff.mpr nonempty]
  rfl

theorem readMagnitude_eq_read {isNegative : Bool} {text rest : List Char} {literal : Literal}
    (reads : readMagnitude isNegative text = .read literal rest) :
    ∃ run magnitude, text = run ++ rest ∧ Decimal.ofNumeral? run = some magnitude ∧
      literal = ⟨isNegative, magnitude⟩ := by
  unfold readMagnitude at reads
  dsimp only at reads
  split at reads
  · cases reads
  · split at reads
    · rename_i magnitude isNumeral
      cases reads
      exact ⟨_, magnitude, List.takeWhile_append_dropWhile.symm, isNumeral, rfl⟩
    · cases reads

theorem readMagnitude_append {text : List Char} (nonempty : text ≠ [])
    (next : NoNumeralNext text) (rest : List Char) (isNegative : Bool) :
    readMagnitude isNegative (text ++ rest) = .absent := by
  apply readMagnitude_absent
  intro char isHead
  rw [List.head?_append_of_ne_nil _ nonempty] at isHead
  exact next char isHead

theorem readLiteral_of_numeral {text : List Char}
    (starts : ∀ char ∈ text.head?, isNumeralCharacter char = true) :
    readLiteral text = readMagnitude false text := by
  unfold readLiteral
  split
  · exact absurd (starts '+' rfl) (by decide)
  · exact absurd (starts '-' rfl) (by decide)
  · rfl

theorem readLiteral_numeral {run : List Char} {magnitude : Decimal}
    (isNumeral : Decimal.ofNumeral? run = some magnitude) {rest : List Char}
    (next : NoNumeralNext rest) : readLiteral (run ++ rest) = .read ⟨false, magnitude⟩ rest := by
  obtain ⟨nonempty, characters⟩ := characters_of_isNumeral isNumeral
  rw [readLiteral_of_numeral, readMagnitude_read isNumeral next]
  intro char isHead
  rw [List.head?_append_of_ne_nil _ nonempty] at isHead
  exact characters char (List.mem_of_mem_head? isHead)

theorem hasValue_of_readLiteral {operations : Operations α} {text rest : List Char}
    {literal : Literal} (reads : readLiteral text = .read literal rest) :
    ∃ front, text = front ++ rest ∧
      HasValue operations .factor front (literal.value operations) := by
  unfold readLiteral at reads
  split at reads
  all_goals
    obtain ⟨run, magnitude, rfl, isNumeral, rfl⟩ := readMagnitude_eq_read reads
  · exact ⟨'+' :: run, rfl, .positive (.numeral isNumeral)⟩
  · exact ⟨'-' :: run, rfl, .negative (.numeral isNumeral)⟩
  · exact ⟨run, rfl, .numeral isNumeral⟩

def NoSignNext (text : List Char) : Prop :=
  ∀ char ∈ text.head?, Operator.ofChar? char = none

theorem noNumeralNext_sign (operator : Operator) (rest : List Char) :
    NoNumeralNext (operator.sign :: rest) := by
  rintro char ⟨⟩
  cases operator <;> rfl

section Chain

variable {reader : List Char → Option (Operand × List Char)} {steps : Nat} {text rest : List Char}

theorem readChain_last {operand : Operand} (reads : reader text = some (operand, rest))
    (next : NoSignNext rest) : readChain reader (steps + 1) text = some (.last operand, rest) := by
  rw [readChain, reads]
  cases rest with
  | nil => rfl
  | cons char rest => simp only [next char rfl]

theorem readChain_link {operand : Operand} {operator : Operator} {behind : List Char}
    {chain : Chain} (reads : reader text = some (operand, operator.sign :: behind))
    (more : readChain reader steps behind = some (chain, rest)) :
    readChain reader (steps + 1) text = some (.link operand operator chain, rest) := by
  rw [readChain, reads]
  simp only [operator.ofChar?_sign, more]

theorem readChain_cases {chain : Chain}
    (reads : readChain reader (steps + 1) text = some (chain, rest)) :
    (∃ operand, reader text = some (operand, rest) ∧ NoSignNext rest ∧ chain = .last operand) ∨
    (∃ operand operator behind more,
      reader text = some (operand, Operator.sign operator :: behind) ∧
      readChain reader steps behind = some (more, rest) ∧
      chain = .link operand operator more) := by
  rw [readChain] at reads
  split at reads
  · cases reads
  · rename_i operand isRead
    cases reads
    exact .inl ⟨operand, isRead, by rintro _ ⟨⟩, rfl⟩
  · rename_i operand char behind isRead
    split at reads
    · rename_i noSign
      cases reads
      refine .inl ⟨operand, isRead, ?_, rfl⟩
      rintro _ ⟨⟩
      exact noSign
    · rename_i operator isSign
      split at reads
      · cases reads
      · rename_i more left isMore
        cases reads
        rw [Operator.eq_sign isSign] at isRead
        exact .inr ⟨operand, operator, behind, more, isRead, isMore, rfl⟩

theorem row_of_readChain {Spells : List Char → Operand → Prop}
    (spells : ∀ text operand rest, reader text = some (operand, rest) →
      ∃ front, text = front ++ rest ∧ Spells front operand) {chain : Chain}
    (reads : readChain reader steps text = some (chain, rest)) :
    ∃ front, text = front ++ rest ∧ Row Spells front chain := by
  induction steps generalizing text chain with
  | zero => cases reads
  | succ steps ih =>
      rcases readChain_cases reads with
        ⟨operand, isRead, -, rfl⟩ | ⟨operand, operator, behind, more, isRead, isMore, rfl⟩
      · obtain ⟨front, isText, spelled⟩ := spells _ _ _ isRead
        exact ⟨front, isText, .last spelled⟩
      · obtain ⟨front, isText, spelled⟩ := spells _ _ _ isRead
        obtain ⟨following, rfl, row⟩ := ih isMore
        refine ⟨front ++ operator.sign :: following, ?_, .link operator spelled row⟩
        rw [isText, List.append_assoc, List.cons_append]

theorem readChain_of_reads {Spells : List Char → Operand → Prop} {chain : Chain}
    (row : Row Spells text chain) {bound : Nat} (short : text.length ≤ bound)
    (reads : ∀ front operand, Spells front operand → front.length ≤ bound →
      ∀ rest, NoNumeralNext rest → reader (front ++ rest) = some (operand, rest))
    (enough : text.length < steps) (noNumeral : NoNumeralNext rest) (noSign : NoSignNext rest) :
    readChain reader steps (text ++ rest) = some (chain, rest) := by
  induction row generalizing steps with
  | last spells =>
      obtain ⟨left, rfl⟩ := Nat.exists_eq_add_of_lt enough
      exact readChain_last (reads _ _ spells short rest noNumeral) noSign
  | @link text behind operand chain operator spells more ih =>
      rw [List.length_append, List.length_cons] at short enough
      obtain ⟨left, rfl⟩ := Nat.exists_eq_add_of_lt enough
      have operandShort : text.length ≤ bound := by omega
      have behindShort : behind.length ≤ bound := by omega
      rw [List.append_assoc, List.cons_append]
      refine readChain_link (reads _ _ spells operandShort _ (noNumeralNext_sign operator _)) ?_
      exact ih behindShort (by omega)

theorem readChain_of_extends {wider : List Char → Option (Operand × List Char)}
    (isExtended : ∀ text operand rest, reader text = some (operand, rest) →
      wider text = some (operand, rest)) {chain : Chain}
    (reads : readChain reader steps text = some (chain, rest)) :
    readChain wider steps text = some (chain, rest) := by
  induction steps generalizing text chain with
  | zero => cases reads
  | succ steps ih =>
      rcases readChain_cases reads with
        ⟨operand, isRead, next, rfl⟩ | ⟨operand, operator, behind, more, isRead, isMore, rfl⟩
      · exact readChain_last (isExtended _ _ _ isRead) next
      · exact readChain_link (isExtended _ _ _ isRead) (ih isMore)

end Chain

section Operand

variable {depth : Nat} {text rest : List Char}

theorem readOperand_literal {literal : Literal} (reads : readLiteral text = .read literal rest) :
    readOperand (depth + 1) text = some (.literal literal, rest) := by
  rw [readOperand.eq_def]
  simp only [reads]

theorem readOperand_positive {operand : Operand} (unread : readLiteral ('+' :: text) = .absent)
    (reads : readOperand depth text = some (operand, rest)) :
    readOperand (depth + 1) ('+' :: text) = some (.positive operand, rest) := by
  rw [readOperand.eq_def]
  simp only [unread, reads, Option.map_some]

theorem readOperand_negative {operand : Operand} (unread : readLiteral ('-' :: text) = .absent)
    (reads : readOperand depth text = some (operand, rest)) :
    readOperand (depth + 1) ('-' :: text) = some (.negative operand, rest) := by
  rw [readOperand.eq_def]
  simp only [unread, reads, Option.map_some]

theorem readOperand_group {chain : Chain}
    (reads : readChain (readOperand depth) (text.length + 1) text = some (chain, ')' :: rest)) :
    readOperand (depth + 1) ('(' :: text) = some (.group chain, rest) := by
  have unread : readLiteral ('(' :: text) = .absent := rfl
  rw [readOperand.eq_def]
  simp only [unread, reads]

theorem readOperand_cases {operand : Operand}
    (reads : readOperand (depth + 1) text = some (operand, rest)) :
    (∃ literal, readLiteral text = .read literal rest ∧ operand = .literal literal) ∨
    (∃ inner factor, text = '+' :: inner ∧ readLiteral text = .absent ∧
      readOperand depth inner = some (factor, rest) ∧ operand = .positive factor) ∨
    (∃ inner factor, text = '-' :: inner ∧ readLiteral text = .absent ∧
      readOperand depth inner = some (factor, rest) ∧ operand = .negative factor) ∨
    (∃ inner chain, text = '(' :: inner ∧
      readChain (readOperand depth) (inner.length + 1) inner = some (chain, ')' :: rest) ∧
      operand = .group chain) := by
  rw [readOperand.eq_def] at reads
  dsimp only at reads
  split at reads
  · rename_i literal behind isLiteral
    cases reads
    exact .inl ⟨literal, isLiteral, rfl⟩
  · cases reads
  · rename_i unread
    split at reads
    · rename_i inner
      obtain ⟨⟨factor, left⟩, isRead, same⟩ := Option.map_eq_some_iff.mp reads
      cases same
      exact .inr (.inl ⟨inner, factor, rfl, unread, isRead, rfl⟩)
    · rename_i inner
      obtain ⟨⟨factor, left⟩, isRead, same⟩ := Option.map_eq_some_iff.mp reads
      cases same
      exact .inr (.inr (.inl ⟨inner, factor, rfl, unread, isRead, rfl⟩))
    · rename_i inner
      split at reads
      · rename_i chain behind isChain
        cases reads
        exact .inr (.inr (.inr ⟨inner, chain, rfl, isChain, rfl⟩))
      · cases reads
    · cases reads

end Operand

theorem isFactor_of_readOperand {operations : Operations α} (associates : operations.Associates)
    {depth : Nat} (text : List Char) (operand : Operand) (rest : List Char)
    (reads : readOperand depth text = some (operand, rest)) :
    ∃ front, text = front ++ rest ∧ IsFactor operations front operand := by
  induction depth generalizing text operand rest with
  | zero => cases reads
  | succ depth ih =>
      rcases readOperand_cases reads with
        ⟨literal, isLiteral, rfl⟩ | ⟨inner, factor, rfl, -, isRead, rfl⟩ |
        ⟨inner, factor, rfl, -, isRead, rfl⟩ | ⟨inner, chain, rfl, isChain, rfl⟩
      · obtain ⟨front, isText, factor⟩ := hasValue_of_readLiteral isLiteral
        exact ⟨front, isText, fun _ => factor⟩
      · obtain ⟨front, rfl, isFactor⟩ := ih inner factor rest isRead
        refine ⟨'+' :: front, rfl, fun unpowered => ?_⟩
        rw [Operand.value]
        exact .positive (isFactor (List.not_mem_of_not_mem_cons unpowered))
      · obtain ⟨front, rfl, isFactor⟩ := ih inner factor rest isRead
        refine ⟨'-' :: front, rfl, fun unpowered => ?_⟩
        rw [Operand.value]
        exact .negative (isFactor (List.not_mem_of_not_mem_cons unpowered))
      · obtain ⟨front, rfl, row⟩ := row_of_readChain ih isChain
        refine ⟨'(' :: (front ++ [')']), by simp, fun unpowered => ?_⟩
        rw [Operand.value]
        refine .group (row.hasValue associates ?_)
        intro member
        exact unpowered (List.mem_cons_of_mem _ (List.mem_append_left _ member))

theorem readOperand_succ {depth : Nat} (text : List Char) (operand : Operand) (rest : List Char)
    (reads : readOperand depth text = some (operand, rest)) :
    readOperand (depth + 1) text = some (operand, rest) := by
  induction depth generalizing text operand rest with
  | zero => cases reads
  | succ depth ih =>
      rcases readOperand_cases reads with
        ⟨literal, isLiteral, rfl⟩ | ⟨inner, factor, rfl, unread, isRead, rfl⟩ |
        ⟨inner, factor, rfl, unread, isRead, rfl⟩ | ⟨inner, chain, rfl, isChain, rfl⟩
      · exact readOperand_literal isLiteral
      · exact readOperand_positive unread (ih inner factor rest isRead)
      · exact readOperand_negative unread (ih inner factor rest isRead)
      · exact readOperand_group (readChain_of_extends ih isChain)

/-- What is read is read in the same way where deeper nesting is allowed. -/
theorem readOperand_of_le {depth deeper : Nat} (le : depth ≤ deeper) (text : List Char)
    (operand : Operand) (rest : List Char)
    (reads : readOperand depth text = some (operand, rest)) :
    readOperand deeper text = some (operand, rest) := by
  induction le with
  | refl => exact reads
  | step _ ih => exact readOperand_succ text operand rest ih

theorem limits_of_read? {text : List Char} {chain : Chain} (isRead : read? text = some chain) :
    text.length ≤ lengthLimit ∧
      readChain (readOperand (nestingLimit + 1)) (text.length + 1) text = some (chain, []) ∧
      chain.groups + 1 ≤ groupLimit ∧ chain.signs ≤ signLimit := by
  unfold read? at isRead
  split at isRead
  · cases isRead
  · rename_i short
    split at isRead
    · rename_i complete
      split at isRead
      · rename_i allowed
        cases isRead
        exact ⟨Nat.not_lt.mp short, complete, allowed⟩
      · cases isRead
    · cases isRead

theorem readChain_of_read? {text : List Char} {chain : Chain} (isRead : read? text = some chain) :
    readChain (readOperand (nestingLimit + 1)) (text.length + 1) text = some (chain, []) :=
  (limits_of_read? isRead).2.1

end ChatAssistant.Arithmetic
