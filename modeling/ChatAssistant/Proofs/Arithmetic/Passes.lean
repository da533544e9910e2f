import ChatAssistant.Arithmetic.Evaluation

/-!
The passes of an evaluation, two at a time. Division before multiplication and subtraction before
addition, each in its own direction, come to the same as both from left to right, as long as the
operations associate.
-/

namespace ChatAssistant.Arithmetic

variable {α : Type}

def joinInOrder (operation? : Operator → Option (α → α → α)) :
    α → List (Operator × α) → Values α
  | value, [] => (value, [])
  | value, (operator, next) :: rest =>
      match operation? operator with
      | some join => joinInOrder operation? (join value next) rest
      | none =>
          let (first, more) := joinInOrder operation? next rest
          (value, (operator, first) :: more)

/-- A group of operators that are joined: `separate` goes with the earlier pass, `join` with the
later one. -/
structure Joins (operation? : Operator → Option (α → α → α)) (earlier later : Operator)
    (separate join : α → α → α) : Prop where
  separated : operation? earlier = some separate
  joined : operation? later = some join
  others : ∀ other, other ≠ earlier → other ≠ later → operation? other = none
  join_join : ∀ first second third, join (join first second) third = join first (join second third)
  separate_join : ∀ first second third,
    separate (join first second) third = join first (separate second third)

section Joining

variable {operation? : Operator → Option (α → α → α)}

theorem joinInOrder_some {operator : Operator} {join : α → α → α}
    (joins : operation? operator = some join) (value next : α) (rest : List (Operator × α)) :
    joinInOrder operation? value ((operator, next) :: rest) =
      joinInOrder operation? (join value next) rest := by
  rw [joinInOrder, joins]

theorem joinInOrder_none {operator : Operator} (apart : operation? operator = none)
    (value next : α) (rest : List (Operator × α)) :
    joinInOrder operation? value ((operator, next) :: rest) =
      (value, (operator, (joinInOrder operation? next rest).1) ::
        (joinInOrder operation? next rest).2) := by
  rw [joinInOrder, apart]

variable {earlier later : Operator} {separate join : α → α → α}

theorem joinInOrder_join (joins : Joins operation? earlier later separate join)
    (front value : α) (rest : List (Operator × α)) :
    joinInOrder operation? (join front value) rest =
      (join front (joinInOrder operation? value rest).1,
        (joinInOrder operation? value rest).2) := by
  induction rest generalizing value with
  | nil => rfl
  | cons item rest ih =>
      obtain ⟨operator, next⟩ := item
      by_cases isLater : operator = later
      · subst isLater
        rw [joinInOrder_some joins.joined, joinInOrder_some joins.joined, joins.join_join, ih]
      · by_cases isEarlier : operator = earlier
        · subst isEarlier
          rw [joinInOrder_some joins.separated, joinInOrder_some joins.separated,
            joins.separate_join, ih]
        · have apart := joins.others operator isEarlier isLater
          rw [joinInOrder_none apart, joinInOrder_none apart]

theorem joinRight_joinLeft (joins : Joins operation? earlier later separate join)
    (value : α) (rest : List (Operator × α)) :
    joinRight later join (joinLeft earlier separate value rest).1
        (joinLeft earlier separate value rest).2 =
      joinInOrder operation? value rest := by
  induction rest generalizing value with
  | nil => rfl
  | cons item rest ih =>
      obtain ⟨operator, next⟩ := item
      by_cases isEarlier : operator = earlier
      · subst isEarlier
        rw [joinLeft, if_pos rfl, joinInOrder_some joins.separated]
        exact ih (separate value next)
      · rw [joinLeft, if_neg isEarlier]
        simp only [joinRight, ih]
        by_cases isLater : operator = later
        · subst isLater
          rw [if_pos rfl, joinInOrder_some joins.joined, joinInOrder_join joins]
        · rw [if_neg isLater, joinInOrder_none (joins.others operator isEarlier isLater)]

theorem joinRight_of_absent {operator : Operator} (join : α → α → α) (value : α)
    {rest : List (Operator × α)} (absent : ∀ item ∈ rest, item.1 ≠ operator) :
    joinRight operator join value rest = (value, rest) := by
  induction rest generalizing value with
  | nil => rfl
  | cons item rest ih =>
      obtain ⟨other, next⟩ := item
      rw [List.forall_mem_cons] at absent
      simp only [joinRight, ih next absent.2, if_neg absent.1]

end Joining

def Operations.product? (operations : Operations α) : Operator → Option (α → α → α)
  | .multiply => some operations.multiply
  | .divide => some operations.divide
  | _ => none

def Operations.sum? (operations : Operations α) : Operator → Option (α → α → α)
  | .add => some operations.add
  | .subtract => some operations.subtract
  | _ => none

structure Operations.Associates (operations : Operations α) : Prop where
  multiply_multiply : ∀ first second third,
    operations.multiply (operations.multiply first second) third =
      operations.multiply first (operations.multiply second third)
  multiply_divide : ∀ first second third,
    operations.divide (operations.multiply first second) third =
      operations.multiply first (operations.divide second third)
  add_add : ∀ first second third,
    operations.add (operations.add first second) third =
      operations.add first (operations.add second third)
  add_subtract : ∀ first second third,
    operations.subtract (operations.add first second) third =
      operations.add first (operations.subtract second third)

namespace Operations.Associates

variable {operations : Operations α}

theorem products (associates : operations.Associates) :
    Joins operations.product? .divide .multiply operations.divide operations.multiply where
  separated := rfl
  joined := rfl
  others := by
    intro other notDivide notMultiply
    cases other with
    | divide => exact absurd rfl notDivide
    | multiply => exact absurd rfl notMultiply
    | add | subtract | power => rfl
  join_join := associates.multiply_multiply
  separate_join := associates.multiply_divide

theorem sums (associates : operations.Associates) :
    Joins operations.sum? .subtract .add operations.subtract operations.add where
  separated := rfl
  joined := rfl
  others := by
    intro other notSubtract notAdd
    cases other with
    | subtract => exact absurd rfl notSubtract
    | add => exact absurd rfl notAdd
    | multiply | divide | power => rfl
  join_join := associates.add_add
  separate_join := associates.add_subtract

end Operations.Associates

/-- Products and quotients first, then sums and differences, each from left to right. -/
def inOrder (operations : Operations α) (values : Values α) : Values α :=
  joinInOrder operations.sum?
    (joinInOrder operations.product? values.1 values.2).1
    (joinInOrder operations.product? values.1 values.2).2

/-- Without powers, the five passes are the two of the usual order. -/
theorem reduce_eq_inOrder {operations : Operations α} (associates : operations.Associates)
    {values : Values α} (noPower : ∀ item ∈ values.2, item.1 ≠ .power) :
    reduce operations values = (inOrder operations values).1 := by
  have powers : powersJoined operations values = values :=
    joinRight_of_absent operations.power values.1 noPower
  have products : productsJoined operations (quotientsJoined operations values) =
      joinInOrder operations.product? values.1 values.2 :=
    joinRight_joinLeft associates.products values.1 values.2
  have sums (joined : Values α) : sumsJoined operations (differencesJoined operations joined) =
      joinInOrder operations.sum? joined.1 joined.2 :=
    joinRight_joinLeft associates.sums joined.1 joined.2
  rw [reduce, powers, products, sums, inOrder]

end ChatAssistant.Arithmetic
