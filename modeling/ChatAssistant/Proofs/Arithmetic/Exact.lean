import ChatAssistant.Proofs.Arithmetic.Reading
import Mathlib.Algebra.Order.Ring.Unbundled.Rat
import Mathlib.Algebra.Field.Rat

/-!
Every text with a value in the usual reading is read, if only the nesting is allowed, and
evaluated to that value. Exact arithmetic associates, so there the passes give the usual value.
-/

namespace ChatAssistant.Arithmetic

variable {α : Type} {text : List Char}

/-- The operand is what the text is read as, whatever stands behind it but a longer numeral. -/
def ReadsOperand (text : List Char) (operand : Operand) : Prop :=
  ∀ depth, text.length < depth → ∀ rest, NoNumeralNext rest →
    readOperand depth (text ++ rest) = some (operand, rest)

theorem readsOperand_of_readLiteral {literal : Literal}
    (reads : ∀ rest, NoNumeralNext rest → readLiteral (text ++ rest) = .read literal rest) :
    ReadsOperand text (.literal literal) := by
  intro depth enough rest next
  obtain ⟨allowed, rfl⟩ := Nat.exists_eq_add_of_lt enough
  exact readOperand_literal (reads rest next)

theorem readsOperand_numeral {magnitude : Decimal}
    (isNumeral : Decimal.ofNumeral? text = some magnitude) :
    ReadsOperand text (.literal ⟨false, magnitude⟩) :=
  readsOperand_of_readLiteral fun _ next => readLiteral_numeral isNumeral next

theorem readsOperand_positive {operand : Operand} (nonempty : text ≠ [])
    (next : NoNumeralNext text) (reads : ReadsOperand text operand) :
    ReadsOperand ('+' :: text) (.positive operand) := by
  intro depth enough rest behind
  obtain ⟨allowed, rfl⟩ := Nat.exists_eq_add_of_lt enough
  have shorter : text.length < ('+' :: text).length + allowed := by
    rw [List.length_cons]
    omega
  exact readOperand_positive (readMagnitude_append nonempty next rest false)
    (reads _ shorter rest behind)

theorem readsOperand_negative {operand : Operand} (nonempty : text ≠ [])
    (next : NoNumeralNext text) (reads : ReadsOperand text operand) :
    ReadsOperand ('-' :: text) (.negative operand) := by
  intro depth enough rest behind
  obtain ⟨allowed, rfl⟩ := Nat.exists_eq_add_of_lt enough
  have shorter : text.length < ('-' :: text).length + allowed := by
    rw [List.length_cons]
    omega
  exact readOperand_negative (readMagnitude_append nonempty next rest true)
    (reads _ shorter rest behind)

theorem readsOperand_positive_numeral {magnitude : Decimal}
    (isNumeral : Decimal.ofNumeral? text = some magnitude) :
    ReadsOperand ('+' :: text) (.literal ⟨false, magnitude⟩) :=
  readsOperand_of_readLiteral fun _ next => readMagnitude_read isNumeral next false

theorem readsOperand_negative_numeral {magnitude : Decimal}
    (isNumeral : Decimal.ofNumeral? text = some magnitude) :
    ReadsOperand ('-' :: text) (.literal ⟨true, magnitude⟩) :=
  readsOperand_of_readLiteral fun _ next => readMagnitude_read isNumeral next true

theorem readChain_of_row {chain : Chain} (row : Row ReadsOperand text chain)
    {depth steps : Nat} (deep : text.length < depth) (enough : text.length < steps)
    {rest : List Char} (noNumeral : NoNumeralNext rest) (noSign : NoSignNext rest) :
    readChain (readOperand depth) steps (text ++ rest) = some (chain, rest) := by
  refine readChain_of_reads row (Nat.le_refl _) ?_ enough noNumeral noSign
  intro front operand reads short
  exact reads depth (Nat.lt_of_le_of_lt short deep)

theorem readsOperand_group {chain : Chain} (row : Row ReadsOperand text chain) :
    ReadsOperand ('(' :: (text ++ [')'])) (.group chain) := by
  intro depth enough rest _
  obtain ⟨allowed, rfl⟩ := Nat.exists_eq_add_of_lt enough
  have closes : '(' :: (text ++ [')']) ++ rest = '(' :: (text ++ ')' :: rest) := by
    rw [List.cons_append, List.append_assoc, List.singleton_append]
  rw [closes]
  apply readOperand_group
  apply readChain_of_row row
  · rw [List.length_cons, List.length_append]
    omega
  · rw [List.length_append]
    omega
  · rintro char ⟨⟩
    rfl
  · rintro char ⟨⟩
    rfl

def Chain.append : Chain → Operator → Chain → Chain
  | .last operand, operator, behind => .link operand operator behind
  | .link operand other rest, operator, behind => .link operand other (rest.append operator behind)

theorem Chain.values_append (operations : Operations α) (chain : Chain) (operator : Operator)
    (behind : Chain) :
    (chain.append operator behind).values operations =
      ((chain.values operations).1, (chain.values operations).2 ++
        (operator, (behind.values operations).1) :: (behind.values operations).2) := by
  match chain with
  | .last operand => simp only [Chain.append, Chain.values, List.nil_append]
  | .link operand other rest =>
      simp only [Chain.append, Chain.values, values_append operations rest, List.cons_append]

theorem Row.append {Spells : List Char → Operand → Prop} {left right : List Char}
    {chain behind : Chain} (row : Row Spells left chain) (operator : Operator)
    (more : Row Spells right behind) :
    Row Spells (left ++ operator.sign :: right) (chain.append operator behind) := by
  induction row with
  | last spells => exact .link operator spells more
  | link other spells _ ih =>
      rw [List.append_assoc, List.cons_append]
      exact .link other spells ih

section Joining

variable {operation? : Operator → Option (α → α → α)} {operator : Operator}

theorem joinInOrder_append {value total : α} {front : List (Operator × α)}
    (joined : joinInOrder operation? value front = (total, [])) (behind : List (Operator × α)) :
    joinInOrder operation? value (front ++ behind) = joinInOrder operation? total behind := by
  induction front generalizing value with
  | nil =>
      cases joined
      rfl
  | cons item front ih =>
      obtain ⟨other, next⟩ := item
      cases apart : operation? other with
      | some join =>
          rw [joinInOrder_some apart] at joined
          rw [List.cons_append, joinInOrder_some apart]
          exact ih joined
      | none =>
          rw [joinInOrder_none apart] at joined
          cases joined

theorem joinInOrder_append_apart (apart : operation? operator = none) (value next : α)
    (front behind : List (Operator × α)) :
    joinInOrder operation? value (front ++ (operator, next) :: behind) =
      ((joinInOrder operation? value front).1, (joinInOrder operation? value front).2 ++
        (operator, (joinInOrder operation? next behind).1) ::
          (joinInOrder operation? next behind).2) := by
  induction front generalizing value with
  | nil => exact joinInOrder_none apart value next behind
  | cons item front ih =>
      obtain ⟨other, following⟩ := item
      rw [List.cons_append]
      cases joins : operation? other with
      | some join => rw [joinInOrder_some joins, joinInOrder_some joins, ih]
      | none => rw [joinInOrder_none joins, joinInOrder_none joins, ih, List.cons_append]

end Joining

section Reading

variable {operations : Operations α}

/-- The text is read as operands that are joined to this value: one factor, or a row of factors
that comes down to one product or to one sum. -/
def IsReadAs (operations : Operations α) : Rank → List Char → α → Prop
  | .factor, text, value =>
      ∃ operand, ReadsOperand text operand ∧ operand.value operations = value
  | .product, text, value =>
      ∃ chain, Row ReadsOperand text chain ∧
        joinInOrder operations.product? (chain.values operations).1 (chain.values operations).2 =
          (value, [])
  | .sum, text, value =>
      ∃ chain, Row ReadsOperand text chain ∧
        inOrder operations (chain.values operations) = (value, [])

theorem HasValue.noPower {rank : Rank} {value : α} (has : HasValue operations rank text value) :
    '^' ∉ text := by
  induction has with
  | numeral isNumeral =>
      intro member
      exact absurd ((characters_of_isNumeral isNumeral).2 '^' member) (by decide)
  | positive _ ih | negative _ ih =>
      rw [List.mem_cons, not_or]
      exact ⟨by decide, ih⟩
  | group _ ih =>
      rw [List.mem_cons, List.mem_append, List.mem_singleton, not_or, not_or]
      exact ⟨by decide, ih, by decide⟩
  | product _ ih | sum _ ih => exact ih
  | multiply _ _ before behind | divide _ _ before behind
  | add _ _ before behind | subtract _ _ before behind =>
      rw [List.mem_append, List.mem_cons, not_or, not_or]
      exact ⟨before, by decide, behind⟩

theorem HasValue.factor_cases {value : α} (has : HasValue operations .factor text value) :
    (∃ magnitude, Decimal.ofNumeral? text = some magnitude ∧
      operations.ofDecimal magnitude = value) ∨
    (text ≠ [] ∧ NoNumeralNext text) := by
  cases has with
  | numeral isNumeral => exact .inl ⟨_, isNumeral, rfl⟩
  | positive _ | negative _ | group _ =>
      refine .inr ⟨List.cons_ne_nil _ _, ?_⟩
      rintro char ⟨⟩
      rfl

theorem isReadAs_positive {value : α} (factor : HasValue operations .factor text value)
    (isRead : IsReadAs operations .factor text value) :
    IsReadAs operations .factor ('+' :: text) value := by
  -- Before a numeral the sign is read into the literal, not as an operand around it.
  rcases factor.factor_cases with ⟨magnitude, isNumeral, isValue⟩ | ⟨nonempty, next⟩
  · exact ⟨_, readsOperand_positive_numeral isNumeral, isValue⟩
  · obtain ⟨operand, reads, isValue⟩ := isRead
    refine ⟨_, readsOperand_positive nonempty next reads, ?_⟩
    rw [Operand.value, isValue]

theorem isReadAs_negative {value : α} (factor : HasValue operations .factor text value)
    (isRead : IsReadAs operations .factor text value) :
    IsReadAs operations .factor ('-' :: text) (operations.negate value) := by
  rcases factor.factor_cases with ⟨magnitude, isNumeral, isValue⟩ | ⟨nonempty, next⟩
  · refine ⟨_, readsOperand_negative_numeral isNumeral, ?_⟩
    rw [Operand.value, Literal.value, if_pos rfl, isValue]
  · obtain ⟨operand, reads, isValue⟩ := isRead
    refine ⟨_, readsOperand_negative nonempty next reads, ?_⟩
    rw [Operand.value, isValue]

theorem isReadAs_group (associates : operations.Associates) {value : α}
    (sum : HasValue operations .sum text value) (isRead : IsReadAs operations .sum text value) :
    IsReadAs operations .factor ('(' :: (text ++ [')'])) value := by
  obtain ⟨chain, row, joined⟩ := isRead
  refine ⟨.group chain, readsOperand_group row, ?_⟩
  rw [Operand.value, reduce_eq_inOrder associates (row.noPower sum.noPower operations), joined]

theorem isReadAs_joined_product {left right : List Char} (operator : Operator)
    {join : α → α → α} {product factor : α}
    (joins : operations.product? operator = some join)
    (before : IsReadAs operations .product left product)
    (behind : IsReadAs operations .factor right factor) :
    IsReadAs operations .product (left ++ operator.sign :: right) (join product factor) := by
  obtain ⟨chain, row, joined⟩ := before
  obtain ⟨operand, reads, rfl⟩ := behind
  refine ⟨chain.append operator (.last operand), row.append operator (.last reads), ?_⟩
  rw [Chain.values_append, joinInOrder_append joined, joinInOrder_some joins]
  rfl

theorem isReadAs_joined_sum {left right : List Char} (operator : Operator)
    {join : α → α → α} {sum product : α}
    (apart : operations.product? operator = none) (joins : operations.sum? operator = some join)
    (before : IsReadAs operations .sum left sum)
    (behind : IsReadAs operations .product right product) :
    IsReadAs operations .sum (left ++ operator.sign :: right) (join sum product) := by
  obtain ⟨chain, row, joined⟩ := before
  obtain ⟨last, lastRow, lastJoined⟩ := behind
  refine ⟨chain.append operator last, row.append operator lastRow, ?_⟩
  unfold inOrder at joined ⊢
  rw [Chain.values_append, joinInOrder_append_apart apart, lastJoined,
    joinInOrder_append joined, joinInOrder_some joins]
  rfl

theorem HasValue.isReadAs (associates : operations.Associates) {rank : Rank} {value : α}
    (has : HasValue operations rank text value) : IsReadAs operations rank text value := by
  induction has with
  | numeral isNumeral => exact ⟨_, readsOperand_numeral isNumeral, rfl⟩
  | positive factor ih => exact isReadAs_positive factor ih
  | negative factor ih => exact isReadAs_negative factor ih
  | group sum ih => exact isReadAs_group associates sum ih
  | product _ ih =>
      obtain ⟨operand, reads, rfl⟩ := ih
      exact ⟨.last operand, .last reads, rfl⟩
  | multiply _ _ before behind => exact isReadAs_joined_product .multiply rfl before behind
  | divide _ _ before behind => exact isReadAs_joined_product .divide rfl before behind
  | sum _ ih =>
      obtain ⟨chain, row, joined⟩ := ih
      refine ⟨chain, row, ?_⟩
      rw [inOrder, joined]
      rfl
  | add _ _ before behind => exact isReadAs_joined_sum .add rfl rfl before behind
  | subtract _ _ before behind => exact isReadAs_joined_sum .subtract rfl rfl before behind

theorem hasValue_of_read? (associates : operations.Associates) {chain : Chain}
    (isRead : read? text = some chain) (unpowered : '^' ∉ text) :
    HasValue operations .sum text (chain.value operations) := by
  obtain ⟨front, isText, row⟩ :=
    row_of_readChain (isFactor_of_readOperand associates) (readChain_of_read? isRead)
  rw [List.append_nil] at isText
  subst isText
  exact row.hasValue associates unpowered

theorem value_of_hasValue (associates : operations.Associates) {chain : Chain}
    (isRead : read? text = some chain) {value : α} (has : HasValue operations .sum text value) :
    chain.value operations = value := by
  obtain ⟨usual, row, joined⟩ := has.isReadAs associates
  -- The usual reading may take more nesting than was allowed: both are compared where it is enough.
  have deeper : nestingLimit + 1 ≤ max (nestingLimit + 1) (text.length + 1) := Nat.le_max_left _ _
  have enough : text.length < max (nestingLimit + 1) (text.length + 1) := by omega
  have noNumeral : NoNumeralNext [] := by rintro char ⟨⟩
  have noSign : NoSignNext [] := by rintro char ⟨⟩
  have actual := readChain_of_extends (readOperand_of_le deeper) (readChain_of_read? isRead)
  have same := readChain_of_row row enough text.length.lt_succ_self noNumeral noSign
  rw [List.append_nil, actual] at same
  cases same
  rw [Chain.value, reduce_eq_inOrder associates (row.noPower has.noPower operations), joined]

end Reading

/-- Arithmetic over the rationals, without powers; there is no quotient by zero. -/
def exactOperations : Operations (Option ℚ) where
  ofDecimal decimal := some (decimal.coefficient * 10 ^ decimal.exponent)
  negate value := value.map fun number => -number
  add left right := left.bind fun first => right.map fun second => first + second
  subtract left right := left.bind fun first => right.map fun second => first - second
  multiply left right := left.bind fun first => right.map fun second => first * second
  divide left right := left.bind fun first => right.bind fun second =>
    if second = 0 then none else some (first / second)
  power _ _ := none

theorem exactOperations_associates : exactOperations.Associates where
  multiply_multiply first second third := by
    cases first <;> cases second <;> cases third <;> simp [exactOperations, mul_assoc]
  multiply_divide first second third := by
    rcases third with _ | divisor
    · cases first <;> cases second <;> rfl
    by_cases isZero : divisor = 0
    · cases first <;> cases second <;> simp [exactOperations, isZero]
    · cases first <;> cases second <;> simp [exactOperations, isZero, mul_div_assoc]
  add_add first second third := by
    cases first <;> cases second <;> cases third <;> simp [exactOperations, add_assoc]
  add_subtract first second third := by
    cases first <;> cases second <;> cases third <;> simp [exactOperations, add_sub_assoc]

/-- An expression without powers that is read is evaluated, by the passes over its chains, to the
value of the usual reading and to no other. -/
theorem hasValue_exact_iff {chain : Chain} (isRead : read? text = some chain)
    (unpowered : '^' ∉ text) (value : Option ℚ) :
    HasValue exactOperations .sum text value ↔ chain.value exactOperations = value := by
  constructor
  · intro has
    exact value_of_hasValue exactOperations_associates isRead has
  · rintro rfl
    exact hasValue_of_read? exactOperations_associates isRead unpowered

theorem hasValue_exact_mixed :
    ∃ chain, read? "2-3+4*6/(1--7)/3".toList = some chain ∧
      chain.value exactOperations = some 0 ∧
      HasValue exactOperations .sum "2-3+4*6/(1--7)/3".toList (some 0) := by
  have isEvaluated :
      (read? "2-3+4*6/(1--7)/3".toList).map (Chain.value exactOperations) = some (some 0) := by
    decide +kernel
  obtain ⟨chain, isRead, value⟩ := Option.map_eq_some_iff.mp isEvaluated
  exact ⟨chain, isRead, value, (hasValue_exact_iff isRead (by decide) (some 0)).mpr value⟩

end ChatAssistant.Arithmetic
