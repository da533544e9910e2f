import ChatAssistant.Arithmetic.Divisor
import ChatAssistant.Proofs.Arithmetic.Divisions
import ChatAssistant.Proofs.Arithmetic.Reading
import Mathlib.Data.List.Forall2

/-!
The text of a divisor. What is taken from the text behind a division sign is the text of the
operand that is read there, and by itself it is read as the same operand.
-/

namespace ChatAssistant.Arithmetic

variable {text rest : List Char}

/-! ### Groups in a text -/

inductive Balanced : List Char → Prop where
  | plain {text : List Char} (plain : ∀ char ∈ text, char ≠ '(' ∧ char ≠ ')') : Balanced text
  | append {left right : List Char} (before : Balanced left) (behind : Balanced right) :
      Balanced (left ++ right)
  | group {text : List Char} (inside : Balanced text) : Balanced ('(' :: (text ++ [')']))

theorem groupLength?_plain (plain : ∀ char ∈ text, char ≠ '(' ∧ char ≠ ')') (opened : Nat)
    (rest : List Char) :
    groupLength? opened (text ++ rest) =
      (groupLength? opened rest).map (· + text.length) := by
  induction text with
  | nil =>
      rw [List.nil_append]
      exact Option.map_id'.symm
  | cons char text ih =>
      have apart := plain char List.mem_cons_self
      have step : groupLength? opened (char :: (text ++ rest)) =
          (groupLength? opened (text ++ rest)).map (· + 1) := by
        rw [groupLength?.eq_4]
        · exact apart.1
        · exact apart.2
      rw [List.cons_append, step, ih fun char member => plain char (List.mem_cons_of_mem _ member),
        Option.map_map, List.length_cons]
      rfl

/-- Inside of a group the search for its end passes over a balanced text. -/
theorem groupLength?_balanced (balanced : Balanced text) (opened : Nat) (rest : List Char) :
    groupLength? (opened + 1) (text ++ rest) =
      (groupLength? (opened + 1) rest).map (· + text.length) := by
  induction balanced generalizing opened rest with
  | plain plain => exact groupLength?_plain plain (opened + 1) rest
  | @append left right _ _ before behind =>
      rw [List.append_assoc, before, behind, Option.map_map, List.length_append]
      congr 1
      funext length
      show length + right.length + left.length = length + (left.length + right.length)
      omega
  | @group text _ ih =>
      have inner : ¬ opened + 1 + 1 ≤ 1 := by omega
      have closing : groupLength? (opened + 1 + 1) (')' :: rest) =
          (groupLength? (opened + 1) rest).map (· + 1) := if_neg inner
      rw [List.cons_append, List.append_assoc, List.singleton_append, groupLength?, ih, closing,
        Option.map_map, Option.map_map]
      congr 1
      funext length
      show length + 1 + text.length + 1 = length + ('(' :: (text ++ [')'])).length
      rw [List.length_cons, List.length_append, List.length_singleton]
      omega

/-! ### The text of a divisor -/

theorem divisorText?_sign {sign : Char} (isSign : isSign sign = true) (text : List Char) :
    divisorText? (sign :: text) = (divisorText? text).map (sign :: ·) := by
  unfold divisorText?
  rw [List.takeWhile_cons_of_pos isSign, List.dropWhile_cons_of_pos isSign]
  dsimp only
  split
  · rw [Option.map_map]
    rfl
  · split <;> rfl

theorem divisorText?_group (balanced : Balanced text) (rest : List Char) :
    divisorText? ('(' :: (text ++ ')' :: rest)) = some ('(' :: (text ++ [')'])) := by
  have ends : groupLength? 0 ('(' :: (text ++ ')' :: rest)) = some (text.length + 2) := by
    have closing : groupLength? 1 (')' :: rest) = some 1 := rfl
    rw [groupLength?, groupLength?_balanced balanced, closing, Option.map_some, Option.map_some,
      Nat.add_comm 1]
  have taken : ('(' :: (text ++ ')' :: rest)).take (text.length + 2) =
      '(' :: (text ++ [')']) := by
    rw [List.take_succ_cons, List.take_length_add_append]
    rfl
  unfold divisorText?
  rw [List.takeWhile_cons_of_neg (by decide), List.dropWhile_cons_of_neg (by decide)]
  dsimp only
  rw [ends, Option.map_some, taken]
  rfl

theorem divisorText?_numeral {magnitude : Decimal}
    (isNumeral : Decimal.ofNumeral? text = some magnitude) (next : NoNumeralNext rest) :
    divisorText? (text ++ rest) = some text := by
  obtain ⟨nonempty, characters⟩ := characters_of_isNumeral isNumeral
  have taken := takeWhile_run characters next
  obtain ⟨first, more, rfl⟩ := List.exists_cons_of_ne_nil nonempty
  have isFirst := characters first List.mem_cons_self
  have unsigned : ¬ isSign first = true := by
    intro sign
    rcases Bool.or_eq_true_iff.mp sign with sign | sign <;> rw [of_decide_eq_true sign] at isFirst
    · exact absurd isFirst (by decide)
    · exact absurd isFirst (by decide)
  have ungrouped : first ≠ '(' := by
    rintro rfl
    exact absurd isFirst (by decide)
  unfold divisorText?
  rw [List.cons_append, List.takeWhile_cons_of_neg unsigned, List.dropWhile_cons_of_neg unsigned,
    ← List.cons_append]
  dsimp only
  split
  · rename_i same
    rw [List.cons_append, List.cons.injEq] at same
    exact absurd same.1 ungrouped
  · rw [taken]
    rfl

/-- Any signs, then a numeral that goes no further or a group up to the parenthesis that closes
it. -/
inductive IsDivisorText : List Char → List Char → Prop where
  | numeral {run rest : List Char} {magnitude : Decimal}
      (isNumeral : Decimal.ofNumeral? run = some magnitude) (next : NoNumeralNext rest) :
      IsDivisorText run rest
  | group {inside rest : List Char} (balanced : Balanced inside) :
      IsDivisorText ('(' :: (inside ++ [')'])) rest
  | sign {char : Char} {front rest : List Char} (sign : isSign char = true)
      (behind : IsDivisorText front rest) : IsDivisorText (char :: front) rest

theorem divisorText?_of_isDivisorText {front : List Char} (isText : IsDivisorText front rest) :
    divisorText? (front ++ rest) = some front := by
  induction isText with
  | numeral isNumeral next => exact divisorText?_numeral isNumeral next
  | @group inside rest balanced =>
      rw [List.cons_append, List.append_assoc, List.singleton_append]
      exact divisorText?_group balanced rest
  | sign isSign _ ih => rw [List.cons_append, divisorText?_sign isSign, ih, Option.map_some]

/-! ### The text of an operand -/

def EndsOperand (text : List Char) : Prop :=
  ∃ before last, text = before ++ [last] ∧ (isNumeralCharacter last = true ∨ last = ')')

theorem EndsOperand.append (front : List Char) (ends : EndsOperand text) :
    EndsOperand (front ++ text) := by
  obtain ⟨before, last, rfl, closes⟩ := ends
  exact ⟨front ++ before, last, (List.append_assoc _ _ _).symm, closes⟩

theorem EndsOperand.nonempty (ends : EndsOperand text) : text ≠ [] := by
  obtain ⟨before, last, rfl, -⟩ := ends
  exact List.append_ne_nil_of_right_ne_nil before (List.cons_ne_nil last [])

theorem endsOperand_numeral {magnitude : Decimal}
    (isNumeral : Decimal.ofNumeral? text = some magnitude) : EndsOperand text := by
  obtain ⟨nonempty, characters⟩ := characters_of_isNumeral isNumeral
  refine ⟨text.dropLast, text.getLast nonempty, ?_, .inl ?_⟩
  · exact (List.dropLast_append_getLast nonempty).symm
  · exact characters _ (List.getLast_mem nonempty)

/-- The text is read as the operand, whatever stands behind it but a longer numeral. -/
structure IsOperandText (depth : Nat) (text : List Char) (operand : Operand) : Prop where
  ends : EndsOperand text
  balanced : Balanced text
  reads : ∀ rest, NoNumeralNext rest → readOperand depth (text ++ rest) = some (operand, rest)

theorem balanced_cons {char : Char} (apart : char ≠ '(' ∧ char ≠ ')')
    (balanced : Balanced text) : Balanced (char :: text) :=
  .append (.plain (List.forall_mem_singleton.mpr apart)) balanced

theorem balanced_numeral {magnitude : Decimal}
    (isNumeral : Decimal.ofNumeral? text = some magnitude) : Balanced text := by
  apply Balanced.plain
  intro char member
  have isPart := (characters_of_isNumeral isNumeral).2 char member
  constructor
  · rintro rfl
    exact absurd isPart (by decide)
  · rintro rfl
    exact absurd isPart (by decide)

theorem Row.balanced {Spells : List Char → Operand → Prop} {chain : Chain}
    (row : Row Spells text chain)
    (spells : ∀ text operand, Spells text operand → Balanced text) : Balanced text := by
  induction row with
  | last isText => exact spells _ _ isText
  | link operator isText _ ih =>
      refine .append (spells _ _ isText) (balanced_cons ?_ ih)
      cases operator <;> decide

theorem noNumeralNext_of_readMagnitude {isNegative : Bool} {literal : Literal}
    (reads : readMagnitude isNegative text = .read literal rest) : NoNumeralNext rest := by
  unfold readMagnitude at reads
  dsimp only at reads
  split at reads
  · cases reads
  · split at reads
    · cases reads
      intro char isHead
      have stops := List.head?_dropWhile_not isNumeralCharacter text
      rw [isHead] at stops
      exact stops
    · cases reads

theorem noNumeralNext_of_absent {isNegative : Bool} (nonempty : text ≠ [])
    (unread : readMagnitude isNegative (text ++ rest) = .absent) : NoNumeralNext text := by
  intro char isHead
  obtain ⟨first, more, rfl⟩ := List.exists_cons_of_ne_nil nonempty
  cases isHead
  by_contra isPart
  rw [Bool.not_eq_false] at isPart
  unfold readMagnitude at unread
  rw [List.cons_append, List.takeWhile_cons_of_pos isPart] at unread
  dsimp only at unread
  split at unread
  · contradiction
  · split at unread <;> cases unread

theorem isOperandText_of_readLiteral {depth : Nat} {literal : Literal}
    (reads : readLiteral text = .read literal rest) :
    ∃ front, text = front ++ rest ∧ IsOperandText (depth + 1) front (.literal literal) ∧
      IsDivisorText front rest := by
  unfold readLiteral at reads
  split at reads
  all_goals
    have next := noNumeralNext_of_readMagnitude reads
    obtain ⟨run, magnitude, rfl, isNumeral, rfl⟩ := readMagnitude_eq_read reads
    have ends := endsOperand_numeral isNumeral
    have balanced := balanced_numeral isNumeral
  · refine ⟨'+' :: run, rfl, ⟨ends.append ['+'], balanced_cons (by decide) balanced, ?_⟩,
      .sign rfl (.numeral isNumeral next)⟩
    intro rest next
    exact readOperand_literal (readMagnitude_read isNumeral next false)
  · refine ⟨'-' :: run, rfl, ⟨ends.append ['-'], balanced_cons (by decide) balanced, ?_⟩,
      .sign rfl (.numeral isNumeral next)⟩
    intro rest next
    exact readOperand_literal (readMagnitude_read isNumeral next true)
  · refine ⟨run, rfl, ⟨ends, balanced, ?_⟩, .numeral isNumeral next⟩
    intro rest next
    exact readOperand_literal (readLiteral_numeral isNumeral next)

theorem isOperandText_group {depth : Nat} {chain : Chain}
    (row : Row (IsOperandText depth) text chain) :
    IsOperandText (depth + 1) ('(' :: (text ++ [')'])) (.group chain) where
  ends := ⟨'(' :: text, ')', rfl, .inr rfl⟩
  balanced := .group (row.balanced fun _ _ isText => isText.balanced)
  reads rest next := by
    have closes : '(' :: (text ++ [')']) ++ rest = '(' :: (text ++ ')' :: rest) := by
      rw [List.cons_append, List.append_assoc, List.singleton_append]
    rw [closes]
    apply readOperand_group
    apply readChain_of_reads row (Nat.le_refl _) fun _ _ isText _ => isText.reads
    · rw [List.length_append]
      omega
    · rintro char ⟨⟩
      rfl
    · rintro char ⟨⟩
      rfl

theorem isOperandText_of_readOperand {depth : Nat} {operand : Operand}
    (reads : readOperand depth text = some (operand, rest)) :
    ∃ front, text = front ++ rest ∧ IsOperandText depth front operand ∧
      IsDivisorText front rest := by
  induction depth generalizing text operand rest with
  | zero => cases reads
  | succ depth ih =>
      rcases readOperand_cases reads with
        ⟨literal, isLiteral, rfl⟩ | ⟨inner, factor, rfl, unread, isRead, rfl⟩ |
        ⟨inner, factor, rfl, unread, isRead, rfl⟩ | ⟨inner, chain, rfl, isChain, rfl⟩
      · exact isOperandText_of_readLiteral isLiteral
      · -- No numeral comes behind the sign, and this has to stay so whatever is behind the front.
        obtain ⟨front, rfl, isText, isDivisor⟩ := ih isRead
        have absent := noNumeralNext_of_absent isText.ends.nonempty unread
        refine ⟨'+' :: front, rfl, ⟨isText.ends.append ['+'],
          balanced_cons (by decide) isText.balanced, ?_⟩, .sign rfl isDivisor⟩
        intro rest next
        exact readOperand_positive (readMagnitude_append isText.ends.nonempty absent rest false)
          (isText.reads rest next)
      · obtain ⟨front, rfl, isText, isDivisor⟩ := ih isRead
        have absent := noNumeralNext_of_absent isText.ends.nonempty unread
        refine ⟨'-' :: front, rfl, ⟨isText.ends.append ['-'],
          balanced_cons (by decide) isText.balanced, ?_⟩, .sign rfl isDivisor⟩
        intro rest next
        exact readOperand_negative (readMagnitude_append isText.ends.nonempty absent rest true)
          (isText.reads rest next)
      · have operands (text : List Char) (operand : Operand) (rest : List Char)
            (isRead : readOperand depth text = some (operand, rest)) :
            ∃ front, text = front ++ rest ∧ IsOperandText depth front operand := by
          obtain ⟨front, isText, isOperand, -⟩ := ih isRead
          exact ⟨front, isText, isOperand⟩
        obtain ⟨front, rfl, row⟩ := row_of_readChain operands isChain
        have balanced := row.balanced fun _ _ isText => isText.balanced
        refine ⟨'(' :: (front ++ [')']), ?_, isOperandText_group row, .group balanced⟩
        rw [List.cons_append, List.append_assoc, List.singleton_append]

/-! ### The end of an expression -/

theorem Row.ends {depth : Nat} {chain : Chain} (row : Row (IsOperandText depth) text chain) :
    EndsOperand text := by
  induction row with
  | last isText => exact isText.ends
  | @link text behind _ _ operator _ _ ih =>
      have ends := ih.append (text ++ [operator.sign])
      rw [List.append_assoc, List.singleton_append] at ends
      exact ends

theorem endsOperand_of_read? {chain : Chain} (isRead : read? text = some chain) :
    EndsOperand text := by
  have operands (text : List Char) (operand : Operand) (rest : List Char)
      (reads : readOperand (nestingLimit + 1) text = some (operand, rest)) :
      ∃ front, text = front ++ rest ∧ IsOperandText (nestingLimit + 1) front operand := by
    obtain ⟨front, isText, isOperand, -⟩ := isOperandText_of_readOperand reads
    exact ⟨front, isText, isOperand⟩
  obtain ⟨front, isText, row⟩ := row_of_readChain operands (readChain_of_read? isRead)
  rw [isText, List.append_nil]
  exact row.ends

/-! ### The operands behind the division signs -/

def Operand.Allowed (operand : Operand) : Prop :=
  operand.groups + 1 ≤ groupLimit ∧ operand.signs ≤ signLimit

def Chain.Allowed (chain : Chain) : Prop :=
  chain.groups + 1 ≤ groupLimit ∧ chain.signs ≤ signLimit

theorem Chain.Allowed.operand {operand : Operand} {operator : Operator} {rest : Chain}
    (allowed : (Chain.link operand operator rest).Allowed) : operand.Allowed := by
  unfold Chain.Allowed Chain.groups Chain.signs at allowed
  unfold Operand.Allowed
  omega

theorem Chain.Allowed.behind {operand : Operand} {operator : Operator} {rest : Chain}
    (allowed : (Chain.link operand operator rest).Allowed) : rest.Allowed := by
  unfold Chain.Allowed Chain.groups Chain.signs at allowed
  unfold Chain.Allowed
  omega

theorem read?_operand {depth : Nat} {operand : Operand} (isText : IsOperandText depth text operand)
    (shallow : depth ≤ nestingLimit + 1) (short : text.length ≤ lengthLimit)
    (allowed : operand.Allowed) : read? text = some (.last operand) := by
  have noNumeral : NoNumeralNext [] := by rintro char ⟨⟩
  have noSign : NoSignNext [] := by rintro char ⟨⟩
  have reads := readOperand_of_le shallow _ _ _ (isText.reads [] noNumeral)
  rw [List.append_nil] at reads
  have complete : readChain (readOperand (nestingLimit + 1)) (text.length + 1) text =
      some (.last operand, []) := readChain_last reads noSign
  unfold read?
  rw [if_neg (Nat.not_lt.mpr short), complete]
  exact if_pos allowed

/-- At its front the text is read as the operand; just this is taken from it as a divisor, and it
is read as the same operand by itself. -/
def StartsWith (text : List Char) (operand : Operand) : Prop :=
  ∃ front rest, text = front ++ rest ∧
    readOperand (nestingLimit + 1) text = some (operand, rest) ∧
    divisorText? text = some front ∧ read? front = some (.last operand)

theorem startsWith_of_readOperand {depth : Nat} {operand : Operand}
    (shallow : depth ≤ nestingLimit + 1) (reads : readOperand depth text = some (operand, rest))
    (short : text.length ≤ lengthLimit) (allowed : operand.Allowed) :
    StartsWith text operand := by
  obtain ⟨front, rfl, isText, isDivisor⟩ := isOperandText_of_readOperand reads
  rw [List.length_append] at short
  have alone := read?_operand isText shallow (by omega) allowed
  exact ⟨front, rest, rfl, readOperand_of_le shallow _ _ _ reads,
    divisorText?_of_isDivisorText isDivisor, alone⟩

theorem startsWith_of_readChain {depth steps : Nat} {chain : Chain}
    (shallow : depth ≤ nestingLimit + 1)
    (reads : readChain (readOperand depth) steps text = some (chain, rest))
    (short : text.length ≤ lengthLimit) (allowed : chain.Allowed) :
    StartsWith text chain.first := by
  cases steps with
  | zero => cases reads
  | succ steps =>
      rcases readChain_cases reads with
        ⟨operand, isRead, -, rfl⟩ | ⟨operand, operator, behind, more, isRead, -, rfl⟩
      · exact startsWith_of_readOperand shallow isRead short allowed
      · exact startsWith_of_readOperand shallow isRead short allowed.operand

def behindDivisions : List Char → List (List Char)
  | [] => []
  | '/' :: text => text :: behindDivisions text
  | _ :: text => behindDivisions text

theorem behindDivisions_cons {char : Char} (apart : char ≠ '/') (text : List Char) :
    behindDivisions (char :: text) = behindDivisions text := by
  rw [behindDivisions.eq_3]
  exact apart

theorem behindDivisions_append (undivided : '/' ∉ text) (rest : List Char) :
    behindDivisions (text ++ rest) = behindDivisions rest := by
  induction text with
  | nil => rfl
  | cons char text ih =>
      rw [List.mem_cons, not_or] at undivided
      rw [List.cons_append, behindDivisions_cons (Ne.symm undivided.1), ih undivided.2]

theorem hasZeroDivisor_eq_any (text : List Char) :
    hasZeroDivisor text = (behindDivisions text).any isZeroDivisor := by
  induction text with
  | nil => rfl
  | cons char text ih =>
      by_cases isDivision : char = '/'
      · rw [isDivision, hasZeroDivisor, behindDivisions, List.any_cons, ih]
      · rw [hasZeroDivisor.eq_3 _ _ isDivision, behindDivisions_cons isDivision, ih]

/-- Between the two texts the division signs stand before these parts of the expression. -/
def Divides (text rest : List Char) (tails : List Chain) : Prop :=
  ∃ between, behindDivisions text = between ++ behindDivisions rest ∧
    List.Forall₂ (fun behind tail => StartsWith behind tail.first) between tails

theorem divides_nil (same : behindDivisions text = behindDivisions rest) :
    Divides text rest [] :=
  ⟨[], same, .nil⟩

theorem divides_cons {tail : Chain} (starts : StartsWith text tail.first) :
    Divides ('/' :: text) text [tail] :=
  ⟨[text], rfl, .cons starts .nil⟩

theorem Divides.cons {char : Char} (apart : char ≠ '/') {tails : List Chain}
    (divides : Divides text rest tails) : Divides (char :: text) rest tails := by
  unfold Divides at divides ⊢
  rw [behindDivisions_cons apart]
  exact divides

theorem Divides.append {middle : List Char} {tails more : List Chain}
    (divides : Divides text middle tails) (behind : Divides middle rest more) :
    Divides text rest (tails ++ more) := by
  obtain ⟨between, isText, starts⟩ := divides
  obtain ⟨following, isMiddle, others⟩ := behind
  refine ⟨between ++ following, ?_, List.rel_append starts others⟩
  rw [isText, isMiddle, List.append_assoc]

theorem divides_of_readLiteral {literal : Literal} (reads : readLiteral text = .read literal rest) :
    Divides text rest [] := by
  have undivided (run : List Char) (magnitude : Decimal)
      (isNumeral : Decimal.ofNumeral? run = some magnitude) : '/' ∉ run := by
    intro member
    exact absurd ((characters_of_isNumeral isNumeral).2 '/' member) (by decide)
  apply divides_nil
  unfold readLiteral at reads
  split at reads
  all_goals
    obtain ⟨run, magnitude, rfl, isNumeral, rfl⟩ := readMagnitude_eq_read reads
    have same := behindDivisions_append (undivided run magnitude isNumeral) rest
  · rw [behindDivisions_cons (by decide), same]
  · rw [behindDivisions_cons (by decide), same]
  · exact same

theorem divides_of_readChain {depth steps : Nat} {chain : Chain}
    (shallow : depth ≤ nestingLimit + 1)
    (operands : ∀ {text rest operand}, readOperand depth text = some (operand, rest) →
      text.length ≤ lengthLimit → operand.Allowed → Divides text rest operand.divisorTails)
    (reads : readChain (readOperand depth) steps text = some (chain, rest))
    (short : text.length ≤ lengthLimit) (allowed : chain.Allowed) :
    Divides text rest chain.divisorTails := by
  induction steps generalizing text chain with
  | zero => cases reads
  | succ steps ih =>
      rcases readChain_cases reads with
        ⟨operand, isRead, -, rfl⟩ | ⟨operand, operator, behind, more, isRead, isMore, rfl⟩
      · exact operands isRead short allowed
      · have before := operands isRead short allowed.operand
        have shorter : behind.length ≤ lengthLimit := by
          obtain ⟨front, rfl, -⟩ := isOperandText_of_readOperand isRead
          rw [List.length_append, List.length_cons] at short
          omega
        have following := ih isMore shorter allowed.behind
        have sign : Divides (operator.sign :: behind) behind
            (if operator = .divide then [more] else []) := by
          cases operator with
          | divide =>
              exact divides_cons (startsWith_of_readChain shallow isMore shorter allowed.behind)
          | add | subtract | multiply | power =>
              exact divides_nil (behindDivisions_cons (by decide) _)
        exact before.append (sign.append following)

theorem divides_of_readOperand {depth : Nat} {operand : Operand}
    (shallow : depth ≤ nestingLimit + 1) (reads : readOperand depth text = some (operand, rest))
    (short : text.length ≤ lengthLimit) (allowed : operand.Allowed) :
    Divides text rest operand.divisorTails := by
  induction depth generalizing text operand rest with
  | zero => cases reads
  | succ depth ih =>
      have shallower : depth ≤ nestingLimit + 1 := by omega
      rcases readOperand_cases reads with
        ⟨literal, isLiteral, rfl⟩ | ⟨inner, factor, rfl, unread, isRead, rfl⟩ |
        ⟨inner, factor, rfl, unread, isRead, rfl⟩ | ⟨inner, chain, rfl, isChain, rfl⟩
      · exact divides_of_readLiteral isLiteral
      all_goals
        rw [List.length_cons] at short
        have shorter : inner.length ≤ lengthLimit := by omega
        unfold Operand.Allowed Operand.groups Operand.signs at allowed
        rw [Operand.divisorTails]
        refine Divides.cons (by decide) ?_
      · exact ih shallower isRead shorter ⟨allowed.1, by omega⟩
      · exact ih shallower isRead shorter ⟨allowed.1, by omega⟩
      · have inside : Divides inner (')' :: rest) chain.divisorTails :=
          divides_of_readChain shallower (ih shallower) isChain shorter ⟨by omega, allowed.2⟩
        have closing : Divides (')' :: rest) rest [] :=
          divides_nil (behindDivisions_cons (by decide) rest)
        have whole := inside.append closing
        rw [List.append_nil] at whole
        exact whole

/-- Behind each division sign of an expression stands a divisor, and the operand it starts with is
the one taken there. -/
theorem startsWith_of_read? {chain : Chain} (isRead : read? text = some chain) :
    List.Forall₂ (fun behind tail => StartsWith behind tail.first)
      (behindDivisions text) chain.divisorTails := by
  obtain ⟨short, reads, allowed⟩ := limits_of_read? isRead
  obtain ⟨between, isText, starts⟩ := divides_of_readChain (Nat.le_refl _)
    (divides_of_readOperand (Nat.le_refl _)) reads short allowed
  rw [behindDivisions, List.append_nil] at isText
  rw [isText]
  exact starts

theorem isZeroDivisor_of_startsWith {operand : Operand} (starts : StartsWith text operand) :
    isZeroDivisor text = (operand.value floatOperations == 0) := by
  obtain ⟨front, rest, -, -, taken, alone⟩ := starts
  have evaluated : evaluate? front = some (operand.value floatOperations) := by
    rw [evaluate?, alone]
    rfl
  rw [isZeroDivisor, taken, Option.bind_some, evaluated]

/-- A zero is seen where the operand behind a division sign is zero, before any powers. -/
theorem hasZeroDivisor_of_read? {chain : Chain} (isRead : read? text = some chain) :
    hasZeroDivisor text =
      chain.divisorTails.any fun tail => tail.first.value floatOperations == 0 := by
  have starts := startsWith_of_read? isRead
  rw [hasZeroDivisor_eq_any]
  generalize behindDivisions text = texts at starts ⊢
  generalize chain.divisorTails = tails at starts ⊢
  induction starts with
  | nil => rfl
  | cons starts _ ih => rw [List.any_cons, List.any_cons, ih, isZeroDivisor_of_startsWith starts]

end ChatAssistant.Arithmetic
