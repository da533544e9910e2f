import ChatAssistant.Arithmetic.Evaluation
import Mathlib.Logic.Basic

/-!
The divisions of an evaluation. The evaluation is carried out with values that carry the divisors
they have been computed with; these are the operands behind the division signs, each raised to the
powers that stand behind it.
-/

namespace ChatAssistant.Arithmetic

variable {α β : Type}

/-- Each value is accompanied by the divisors that it has been computed with. -/
def Operations.traced (operations : Operations α) : Operations (α × List α) where
  ofDecimal decimal := (operations.ofDecimal decimal, [])
  negate value := (operations.negate value.1, value.2)
  add left right := (operations.add left.1 right.1, left.2 ++ right.2)
  subtract left right := (operations.subtract left.1 right.1, left.2 ++ right.2)
  multiply left right := (operations.multiply left.1 right.1, left.2 ++ right.2)
  divide left right := (operations.divide left.1 right.1, left.2 ++ right.2 ++ [right.1])
  power left right := (operations.power left.1 right.1, left.2 ++ right.2)

def Chain.divisors (operations : Operations α) (chain : Chain) : List α :=
  (chain.value operations.traced).2

/-! ### The values of a traced evaluation -/

def Values.map (f : α → β) (values : Values α) : Values β :=
  (f values.1, values.2.map (Prod.map id f))

section Mapping

variable {f : α → β} {operator : Operator} {join : α → α → α} {joined : β → β → β}

theorem joinLeft_map (maps : ∀ left right, f (join left right) = joined (f left) (f right))
    (value : α) (rest : List (Operator × α)) :
    joinLeft operator joined (f value) (rest.map (Prod.map id f)) =
      Values.map f (joinLeft operator join value rest) := by
  induction rest generalizing value with
  | nil => rfl
  | cons item rest ih =>
      obtain ⟨other, next⟩ := item
      by_cases same : other = operator
      · rw [List.map_cons, Prod.map, joinLeft, joinLeft, id_eq, if_pos same, if_pos same, ← maps]
        exact ih (join value next)
      · rw [List.map_cons, Prod.map, joinLeft, joinLeft, id_eq, if_neg same, if_neg same, ih next]
        rfl

theorem joinRight_map (maps : ∀ left right, f (join left right) = joined (f left) (f right))
    (value : α) (rest : List (Operator × α)) :
    joinRight operator joined (f value) (rest.map (Prod.map id f)) =
      Values.map f (joinRight operator join value rest) := by
  induction rest generalizing value with
  | nil => rfl
  | cons item rest ih =>
      obtain ⟨other, next⟩ := item
      simp only [List.map_cons, Prod.map, joinRight, id_eq, ih next, Values.map]
      by_cases same : other = operator
      · rw [if_pos same, if_pos same, maps]
      · rw [if_neg same, if_neg same]
        rfl

end Mapping

section Traced

variable (operations : Operations α)

theorem powersJoined_traced (values : Values (α × List α)) :
    powersJoined operations (Values.map Prod.fst values) =
      Values.map Prod.fst (powersJoined operations.traced values) :=
  joinRight_map (f := Prod.fst) (fun _ _ => rfl) values.1 values.2

theorem reduce_traced (values : Values (α × List α)) :
    reduce operations (Values.map Prod.fst values) = (reduce operations.traced values).1 := by
  have quotients (values : Values (α × List α)) :
      quotientsJoined operations (Values.map Prod.fst values) =
        Values.map Prod.fst (quotientsJoined operations.traced values) :=
    joinLeft_map (f := Prod.fst) (fun _ _ => rfl) values.1 values.2
  have products (values : Values (α × List α)) :
      productsJoined operations (Values.map Prod.fst values) =
        Values.map Prod.fst (productsJoined operations.traced values) :=
    joinRight_map (f := Prod.fst) (fun _ _ => rfl) values.1 values.2
  have differences (values : Values (α × List α)) :
      differencesJoined operations (Values.map Prod.fst values) =
        Values.map Prod.fst (differencesJoined operations.traced values) :=
    joinLeft_map (f := Prod.fst) (fun _ _ => rfl) values.1 values.2
  have sums (values : Values (α × List α)) :
      sumsJoined operations (Values.map Prod.fst values) =
        Values.map Prod.fst (sumsJoined operations.traced values) :=
    joinRight_map (f := Prod.fst) (fun _ _ => rfl) values.1 values.2
  rw [reduce, powersJoined_traced, quotients, products, differences, sums]
  rfl

mutual

theorem Operand.value_traced (operand : Operand) :
    (operand.value operations.traced).1 = operand.value operations := by
  match operand with
  | .literal literal =>
      rw [Operand.value, Operand.value, Literal.value, Literal.value]
      split <;> rfl
  | .positive operand =>
      rw [Operand.value, Operand.value]
      exact operand.value_traced
  | .negative operand =>
      rw [Operand.value, Operand.value, ← operand.value_traced]
      rfl
  | .group chain =>
      rw [Operand.value, Operand.value, ← reduce_traced, chain.values_traced]

theorem Chain.values_traced (chain : Chain) :
    Values.map Prod.fst (chain.values operations.traced) = chain.values operations := by
  cases chain with
  | last operand =>
      rw [Chain.values, Chain.values, ← operand.value_traced]
      rfl
  | link operand operator rest =>
      rw [Chain.values, Chain.values, ← operand.value_traced, ← rest.values_traced]
      rfl

end

/-- The divisors are noted down beside the evaluation, without any part in it. -/
theorem Chain.value_traced (chain : Chain) :
    (chain.value operations.traced).1 = chain.value operations := by
  rw [Chain.value, Chain.value, ← reduce_traced, chain.values_traced]

end Traced

/-! ### The divisors of a pass -/

def Noted (divisor : α) (values : Values (α × List α)) : Prop :=
  divisor ∈ values.1.2 ∨ ∃ item ∈ values.2, divisor ∈ item.2.2

section Noting

variable {divisor : α} {operator : Operator}
  {join : α × List α → α × List α → α × List α}

@[simp]
theorem noted_cons (value : α × List α) (item : Operator × (α × List α))
    (rest : List (Operator × (α × List α))) :
    Noted divisor (value, item :: rest) ↔
      divisor ∈ value.2 ∨ Noted divisor (item.2, rest) := by
  simp only [Noted, List.mem_cons, exists_eq_or_imp]

theorem noted_joinRight (keeps : ∀ left right, (join left right).2 = left.2 ++ right.2)
    (values : Values (α × List α)) :
    Noted divisor (joinRight operator join values.1 values.2) ↔ Noted divisor values := by
  obtain ⟨value, rest⟩ := values
  induction rest generalizing value with
  | nil => rfl
  | cons item rest ih =>
      obtain ⟨other, next⟩ := item
      rw [noted_cons, ← ih next]
      simp only [joinRight]
      split
      · rw [Noted, keeps, List.mem_append, or_assoc]
        rfl
      · rw [noted_cons]

theorem noted_joinLeft (keeps : ∀ left right, (join left right).2 = left.2 ++ right.2)
    (values : Values (α × List α)) :
    Noted divisor (joinLeft operator join values.1 values.2) ↔ Noted divisor values := by
  obtain ⟨value, rest⟩ := values
  induction rest generalizing value with
  | nil => rfl
  | cons item rest ih =>
      obtain ⟨other, next⟩ := item
      by_cases same : other = operator
      · simp only [joinLeft, if_pos same]
        rw [ih, noted_cons, Noted, keeps, List.mem_append, or_assoc]
        rfl
      · simp only [joinLeft, if_neg same]
        rw [noted_cons, noted_cons]
        exact or_congr_right (ih next)

/-- The pass of the divisions notes down each value behind a division sign as it stands. -/
theorem noted_quotientsJoined (operations : Operations α) (values : Values (α × List α)) :
    Noted divisor (quotientsJoined operations.traced values) ↔
      Noted divisor values ∨ ∃ item ∈ values.2, item.1 = .divide ∧ item.2.1 = divisor := by
  obtain ⟨value, rest⟩ := values
  induction rest generalizing value with
  | nil =>
      simp only [quotientsJoined, joinLeft, List.not_mem_nil, false_and, exists_false, or_false]
  | cons item rest ih =>
      obtain ⟨other, next⟩ := item
      simp only [quotientsJoined, List.mem_cons, exists_eq_or_imp] at ih ⊢
      by_cases same : other = .divide
      · have joined (value : α × List α) :
            Noted divisor (operations.traced.divide value next, rest) ↔
              divisor ∈ value.2 ∨ Noted divisor (next, rest) ∨ next.1 = divisor := by
          simp only [Noted, Operations.traced, List.mem_append, List.mem_singleton, or_assoc,
            eq_comm (a := divisor)]
          exact or_congr_right (or_congr_right or_comm)
        rw [joinLeft, if_pos same, ih, joined, noted_cons]
        simp only [same, true_and, or_assoc]
      · rw [joinLeft, if_neg same, noted_cons, noted_cons, ih next, or_assoc]
        simp only [same, false_and, false_or]

end Noting

def Joinable (operators : List Operator) (values : Values α) : Prop :=
  ∀ item ∈ values.2, item.1 ∈ operators

section Joinable

variable {operator : Operator} {operators : List Operator} (join : α → α → α)

theorem joinable_joinRight {values : Values α}
    (joinable : Joinable (operator :: operators) values) :
    Joinable operators (joinRight operator join values.1 values.2) := by
  obtain ⟨value, rest⟩ := values
  induction rest generalizing value with
  | nil => exact List.forall_mem_nil _
  | cons item rest ih =>
      obtain ⟨other, next⟩ := item
      have first := joinable (other, next) List.mem_cons_self
      have behind := ih next fun item member => joinable item (List.mem_cons_of_mem _ member)
      simp only [joinRight]
      by_cases same : other = operator
      · rw [if_pos same]
        exact behind
      · rw [if_neg same]
        exact List.forall_mem_cons.mpr ⟨List.mem_of_ne_of_mem same first, behind⟩

theorem joinable_joinLeft {values : Values α} (joinable : Joinable (operator :: operators) values) :
    Joinable operators (joinLeft operator join values.1 values.2) := by
  obtain ⟨value, rest⟩ := values
  induction rest generalizing value with
  | nil => exact List.forall_mem_nil _
  | cons item rest ih =>
      obtain ⟨other, next⟩ := item
      have first := joinable (other, next) List.mem_cons_self
      have others (value : α) := ih value fun item member =>
        joinable item (List.mem_cons_of_mem _ member)
      by_cases same : other = operator
      · simp only [joinLeft, if_pos same]
        exact others (join value next)
      · simp only [joinLeft, if_neg same]
        exact List.forall_mem_cons.mpr ⟨List.mem_of_ne_of_mem same first, others next⟩

end Joinable

/-- No operator is left behind the last pass, so what has been noted down is noted down with the
value of the whole. -/
theorem mem_reduce_traced_iff (operations : Operations α) (values : Values (α × List α))
    (divisor : α) :
    divisor ∈ (reduce operations.traced values).2 ↔
      Noted divisor values ∨
        ∃ item ∈ (powersJoined operations (Values.map Prod.fst values)).2,
          item.1 = .divide ∧ item.2 = divisor := by
  -- Only the pass of the divisions adds to what is noted down; the passes beside it hand it on.
  let powers := powersJoined operations.traced values
  let products := productsJoined operations.traced (quotientsJoined operations.traced powers)
  let sums := sumsJoined operations.traced (differencesJoined operations.traced products)
  have all : Joinable [.power, .divide, .multiply, .subtract, .add] values := by
    intro item _
    cases item.1 <;> decide
  have none : Joinable [] sums :=
    joinable_joinRight _ <| joinable_joinLeft _ <| joinable_joinRight _ <| joinable_joinLeft _ <|
      joinable_joinRight _ all
  have whole : divisor ∈ (reduce operations.traced values).2 ↔ Noted divisor sums := by
    refine (or_iff_left ?_).symm
    rintro ⟨item, member, _⟩
    exact List.not_mem_nil (none item member)
  have quotients : (∃ item ∈ powers.2, item.1 = .divide ∧ item.2.1 = divisor) ↔
      ∃ item ∈ (powersJoined operations (Values.map Prod.fst values)).2,
        item.1 = .divide ∧ item.2 = divisor := by
    rw [powersJoined_traced]
    simp only [Values.map, List.mem_map, Prod.map, id_eq, exists_exists_and_eq_and, powers]
  calc divisor ∈ (reduce operations.traced values).2
      ↔ Noted divisor sums := whole
    _ ↔ Noted divisor products :=
        (noted_joinRight (fun _ _ => rfl) _).trans (noted_joinLeft (fun _ _ => rfl) _)
    _ ↔ Noted divisor (quotientsJoined operations.traced powers) :=
        noted_joinRight (fun _ _ => rfl) _
    _ ↔ Noted divisor powers ∨ ∃ item ∈ powers.2, item.1 = .divide ∧ item.2.1 = divisor :=
        noted_quotientsJoined operations powers
    _ ↔ _ := or_congr (noted_joinRight (fun _ _ => rfl) values) quotients

/-! ### The divisors of an expression -/

mutual

/-- What stands behind each division sign, up to the end of the chain that the sign is in. -/
def Operand.divisorTails : Operand → List Chain
  | .literal _ => []
  | .positive operand => operand.divisorTails
  | .negative operand => operand.divisorTails
  | .group chain => chain.divisorTails

def Chain.divisorTails : Chain → List Chain
  | .last operand => operand.divisorTails
  | .link operand operator rest =>
      operand.divisorTails ++ ((if operator = .divide then [rest] else []) ++ rest.divisorTails)

end

def Chain.first : Chain → Operand
  | .last operand => operand
  | .link operand _ _ => operand

def Chain.raisedFirst (operations : Operations α) (chain : Chain) : α :=
  (powersJoined operations (chain.values operations)).1

theorem powersJoined_link (operations : Operations α) (operand : Operand) (operator : Operator)
    (rest : Chain) :
    powersJoined operations ((Chain.link operand operator rest).values operations) =
      if operator = .power then
        (operations.power (operand.value operations) (rest.raisedFirst operations),
          (powersJoined operations (rest.values operations)).2)
      else (operand.value operations, (operator, rest.raisedFirst operations) ::
        (powersJoined operations (rest.values operations)).2) :=
  rfl

theorem quotients_link (operations : Operations α) (operand : Operand) (operator : Operator)
    (rest : Chain) (divisor : α) :
    (∃ item ∈ (powersJoined operations ((Chain.link operand operator rest).values operations)).2,
        item.1 = .divide ∧ item.2 = divisor) ↔
      (operator = .divide ∧ rest.raisedFirst operations = divisor) ∨
        ∃ item ∈ (powersJoined operations (rest.values operations)).2,
          item.1 = .divide ∧ item.2 = divisor := by
  rw [powersJoined_link]
  by_cases isPower : operator = .power
  · rw [if_pos isPower, isPower]
    exact (or_iff_right (fun both => Operator.noConfusion both.1)).symm
  · rw [if_neg isPower]
    simp only [List.mem_cons, exists_eq_or_imp]

mutual

theorem Operand.mem_value_traced_iff (operations : Operations α) (operand : Operand)
    (divisor : α) :
    divisor ∈ (operand.value operations.traced).2 ↔
      ∃ tail ∈ operand.divisorTails, tail.raisedFirst operations = divisor := by
  match operand with
  | .literal literal =>
      have none : (literal.value operations.traced).2 = [] := by
        rw [Literal.value]
        split <;> rfl
      simp only [Operand.value, none, Operand.divisorTails, List.not_mem_nil, false_and,
        exists_false]
  | .positive operand =>
      rw [Operand.value, Operand.divisorTails]
      exact operand.mem_value_traced_iff operations divisor
  | .negative operand =>
      rw [Operand.value, Operand.divisorTails]
      exact operand.mem_value_traced_iff operations divisor
  | .group chain =>
      rw [Operand.value, Operand.divisorTails, mem_reduce_traced_iff, chain.values_traced]
      exact chain.noted_values_iff operations divisor

theorem Chain.noted_values_iff (operations : Operations α) (chain : Chain) (divisor : α) :
    (Noted divisor (chain.values operations.traced) ∨
        ∃ item ∈ (powersJoined operations (chain.values operations)).2,
          item.1 = .divide ∧ item.2 = divisor) ↔
      ∃ tail ∈ chain.divisorTails, tail.raisedFirst operations = divisor := by
  cases chain with
  | last operand =>
      rw [Chain.divisorTails, ← operand.mem_value_traced_iff operations divisor]
      simp only [Chain.values, Noted, powersJoined, joinRight, List.not_mem_nil, false_and,
        exists_false, or_false]
  | link operand operator rest =>
      have behind := rest.noted_values_iff operations divisor
      have own := operand.mem_value_traced_iff operations divisor
      have sign : (∃ tail ∈ if operator = .divide then [rest] else [],
          tail.raisedFirst operations = divisor) ↔
            operator = .divide ∧ rest.raisedFirst operations = divisor := by
        split <;> simp only [List.mem_singleton, List.not_mem_nil, exists_eq_left, false_and,
          exists_false, true_and, *]
      rw [quotients_link]
      simp only [Chain.values, noted_cons, Chain.divisorTails, List.mem_append, or_and_right,
        exists_or, ← own, ← behind, sign]
      rw [or_assoc]
      exact or_congr_right or_left_comm

end

/-- What an evaluation divides by: the operands behind the division signs, raised to the powers
behind them. -/
theorem Chain.mem_divisors_iff (operations : Operations α) (chain : Chain) (divisor : α) :
    divisor ∈ chain.divisors operations ↔
      ∃ tail ∈ chain.divisorTails, tail.raisedFirst operations = divisor := by
  rw [Chain.divisors, Chain.value, mem_reduce_traced_iff, chain.values_traced]
  exact chain.noted_values_iff operations divisor

end ChatAssistant.Arithmetic
