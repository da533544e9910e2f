import ChatAssistant.Arithmetic.Reading
import ChatAssistant.Proofs.Arithmetic.Passes

/-!
The usual reading of arithmetic: products before sums, and either from left to right. A chain of
operands, read from the right, is a text with the same value.
-/

namespace ChatAssistant.Arithmetic

variable {α : Type}

inductive Rank where
  | sum
  | product
  | factor

/-- The text is a sum, a product or a factor as they are usually written, and this is its value. -/
inductive HasValue (operations : Operations α) : Rank → List Char → α → Prop where
  | numeral {text : List Char} {decimal : Decimal}
      (isNumeral : Decimal.ofNumeral? text = some decimal) :
      HasValue operations .factor text (operations.ofDecimal decimal)
  | positive {text : List Char} {value : α} (factor : HasValue operations .factor text value) :
      HasValue operations .factor ('+' :: text) value
  | negative {text : List Char} {value : α} (factor : HasValue operations .factor text value) :
      HasValue operations .factor ('-' :: text) (operations.negate value)
  | group {text : List Char} {value : α} (sum : HasValue operations .sum text value) :
      HasValue operations .factor ('(' :: (text ++ [')'])) value
  | product {text : List Char} {value : α} (factor : HasValue operations .factor text value) :
      HasValue operations .product text value
  | multiply {left right : List Char} {product factor : α}
      (before : HasValue operations .product left product)
      (behind : HasValue operations .factor right factor) :
      HasValue operations .product (left ++ '*' :: right) (operations.multiply product factor)
  | divide {left right : List Char} {product factor : α}
      (before : HasValue operations .product left product)
      (behind : HasValue operations .factor right factor) :
      HasValue operations .product (left ++ '/' :: right) (operations.divide product factor)
  | sum {text : List Char} {value : α} (product : HasValue operations .product text value) :
      HasValue operations .sum text value
  | add {left right : List Char} {sum product : α}
      (before : HasValue operations .sum left sum)
      (behind : HasValue operations .product right product) :
      HasValue operations .sum (left ++ '+' :: right) (operations.add sum product)
  | subtract {left right : List Char} {sum product : α}
      (before : HasValue operations .sum left sum)
      (behind : HasValue operations .product right product) :
      HasValue operations .sum (left ++ '-' :: right) (operations.subtract sum product)

def Operator.sign : Operator → Char
  | .add => '+'
  | .subtract => '-'
  | .multiply => '*'
  | .divide => '/'
  | .power => '^'

theorem Operator.ofChar?_sign (operator : Operator) : ofChar? operator.sign = some operator := by
  cases operator <;> rfl

theorem Operator.eq_sign {char : Char} {operator : Operator}
    (isSign : ofChar? char = some operator) : char = operator.sign := by
  unfold ofChar? at isSign
  split at isSign <;> cases isSign <;> rfl

/-- The operands of a chain stand in the text one behind the other, each with its operator. -/
inductive Row (Spells : List Char → Operand → Prop) : List Char → Chain → Prop where
  | last {text : List Char} {operand : Operand} (spells : Spells text operand) :
      Row Spells text (.last operand)
  | link {text rest : List Char} {operand : Operand} {chain : Chain} (operator : Operator)
      (spells : Spells text operand) (more : Row Spells rest chain) :
      Row Spells (text ++ operator.sign :: rest) (.link operand operator chain)

theorem Row.noPower {Spells : List Char → Operand → Prop} {text : List Char} {chain : Chain}
    (row : Row Spells text chain) (unpowered : '^' ∉ text) (operations : Operations α) :
    ∀ item ∈ (chain.values operations).2, item.1 ≠ .power := by
  induction row with
  | last => exact List.forall_mem_nil _
  | link operator spells more ih =>
      rw [List.mem_append, List.mem_cons, not_or, not_or] at unpowered
      rw [Chain.values, List.forall_mem_cons]
      refine ⟨?_, ih unpowered.2.2⟩
      rintro rfl
      exact unpowered.2.1 rfl

/-- An operand has the value of its text, unless there are powers in it. -/
def IsFactor (operations : Operations α) (text : List Char) (operand : Operand) : Prop :=
  '^' ∉ text → HasValue operations .factor text (operand.value operations)

section Waiting

variable {operations : Operations α}

/-- The text is a product up to the next factor, with whose value it has this value. -/
def AwaitsFactor (operations : Operations α) (front : List Char) (scaled : α → α) : Prop :=
  ∀ factor value, HasValue operations .factor factor value →
    HasValue operations .product (front ++ factor) (scaled value)

def AwaitsProduct (operations : Operations α) (before : List Char) (total : α → α) : Prop :=
  ∀ product value, HasValue operations .product product value →
    HasValue operations .sum (before ++ product) (total value)

theorem awaitsFactor_nil : AwaitsFactor operations [] id :=
  fun _ _ factor => .product factor

theorem awaitsProduct_nil : AwaitsProduct operations [] id :=
  fun _ _ product => .sum product

theorem awaitsFactor_multiply {text : List Char} {value : α}
    (product : HasValue operations .product text value) :
    AwaitsFactor operations (text ++ ['*']) (operations.multiply value) := by
  intro factor scaled behind
  rw [List.append_assoc]
  exact .multiply product behind

theorem awaitsFactor_divide {text : List Char} {value : α}
    (product : HasValue operations .product text value) :
    AwaitsFactor operations (text ++ ['/']) (operations.divide value) := by
  intro factor scaled behind
  rw [List.append_assoc]
  exact .divide product behind

theorem awaitsProduct_add {text : List Char} {value : α}
    (sum : HasValue operations .sum text value) :
    AwaitsProduct operations (text ++ ['+']) (operations.add value) := by
  intro product total behind
  rw [List.append_assoc]
  exact .add sum behind

theorem awaitsProduct_subtract {text : List Char} {value : α}
    (sum : HasValue operations .sum text value) :
    AwaitsProduct operations (text ++ ['-']) (operations.subtract value) := by
  intro product total behind
  rw [List.append_assoc]
  exact .subtract sum behind

/-- Behind a sum that waits for a product, and behind the part of this product that waits for a
factor, a row goes on from left to right. -/
theorem Row.hasValue_behind {text : List Char} {chain : Chain}
    (row : Row (IsFactor operations) text chain) (unpowered : '^' ∉ text)
    {before front : List Char} {total scaled : α → α}
    (sums : AwaitsProduct operations before total)
    (products : AwaitsFactor operations front scaled) :
    let joined := joinInOrder operations.product? (scaled (chain.values operations).1)
      (chain.values operations).2
    HasValue operations .sum (before ++ (front ++ text))
      (joinInOrder operations.sum? (total joined.1) joined.2).1 := by
  induction row generalizing before front total scaled with
  | last spells => exact sums _ _ (products _ _ (spells unpowered))
  | @link text rest operand chain operator spells more ih =>
      rw [List.mem_append, List.mem_cons, not_or, not_or] at unpowered
      have product := products _ _ (spells unpowered.1)
      have sum := sums _ _ product
      have split : before ++ (front ++ (text ++ operator.sign :: rest)) =
          before ++ (front ++ text ++ [operator.sign] ++ rest) := by
        simp only [List.append_assoc, List.singleton_append]
      have closed : before ++ (front ++ (text ++ operator.sign :: rest)) =
          before ++ (front ++ text) ++ [operator.sign] ++ ([] ++ rest) := by
        simp only [List.append_assoc, List.singleton_append, List.nil_append]
      -- A sign of a product leaves the sum waiting; a sign of a sum ends the product.
      cases operator with
      | multiply =>
          rw [split]
          exact ih unpowered.2.2 sums (awaitsFactor_multiply product)
      | divide =>
          rw [split]
          exact ih unpowered.2.2 sums (awaitsFactor_divide product)
      | add =>
          rw [closed]
          exact ih unpowered.2.2 (awaitsProduct_add sum) awaitsFactor_nil
      | subtract =>
          rw [closed]
          exact ih unpowered.2.2 (awaitsProduct_subtract sum) awaitsFactor_nil
      | power => exact absurd rfl unpowered.2.1

theorem Row.hasValue {text : List Char} {chain : Chain}
    (row : Row (IsFactor operations) text chain) (associates : operations.Associates)
    (unpowered : '^' ∉ text) : HasValue operations .sum text (chain.value operations) := by
  rw [Chain.value, reduce_eq_inOrder associates (row.noPower unpowered operations)]
  exact row.hasValue_behind unpowered awaitsProduct_nil awaitsFactor_nil

end Waiting

end ChatAssistant.Arithmetic
