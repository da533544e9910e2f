import ChatAssistant.Pattern
import Mathlib.Data.List.Infix

/-!
The texts that a pattern accepts, said without trying one way after the other; and that the trials
find a way wherever there is one.
-/

namespace ChatAssistant.Pattern

def AllDigits (text : List Char) : Prop :=
  ∀ char ∈ text, Text.isDecimalDigit char = true

def IsFraction (text : List Char) : Prop :=
  text = [] ∨ ∃ digits, text = '.' :: digits ∧ AllDigits digits

def IsNumeral (text : List Char) : Prop :=
  ∃ whole fraction, text = whole ++ fraction ∧ whole ≠ [] ∧ AllDigits whole ∧ IsFraction fraction

def Accepts : Pattern → List Char → Prop
  | .single accepts, text => ∃ char, text = [char] ∧ accepts char = true
  | .run accepts, text => ∀ char ∈ text, accepts char = true
  | .nonemptyRun accepts, text => text ≠ [] ∧ ∀ char ∈ text, accepts char = true
  | .numeral, text => IsNumeral text
  | .word key spelling, text => text.map key = spelling.map key
  | .optional pattern, text => pattern.Accepts text ∨ text = []
  | .either first second, text => first.Accepts text ∨ second.Accepts text
  | .andThen first second, text =>
      ∃ front back, text = front ++ back ∧ first.Accepts front ∧ second.Accepts back

theorem not_accepts_single_nil (accepts : Char → Bool) : ¬(single accepts).Accepts [] := by
  rintro ⟨char, impossible, _⟩
  cases impossible

theorem accepts_single_cons (accepts : Char → Bool) (char : Char) (text : List Char) :
    (single accepts).Accepts (char :: text) ↔ accepts char = true ∧ text = [] := by
  constructor
  · rintro ⟨_, same, accepted⟩
    cases same
    exact ⟨accepted, rfl⟩
  · rintro ⟨accepted, rfl⟩
    exact ⟨char, rfl, accepted⟩

section Fronts

variable {char : Char} {text rest : List Char} (P : List Char → Prop)

private theorem exists_front_nil :
    (∃ front, [] = front ++ rest ∧ P front) ↔ rest = [] ∧ P [] := by
  constructor
  · rintro ⟨front, split, accepted⟩
    obtain ⟨rfl, rfl⟩ := List.nil_eq_append_iff.mp split
    exact ⟨rfl, accepted⟩
  · rintro ⟨rfl, accepted⟩
    exact ⟨[], rfl, accepted⟩

private theorem exists_front_cons :
    (∃ front, char :: text = front ++ rest ∧ P front) ↔
      (rest = char :: text ∧ P []) ∨ ∃ front, text = front ++ rest ∧ P (char :: front) := by
  constructor
  · rintro ⟨front, split, accepted⟩
    rcases List.cons_eq_append_iff.mp split with ⟨rfl, rfl⟩ | ⟨front, rfl, rfl⟩
    · exact Or.inl ⟨rfl, accepted⟩
    · exact Or.inr ⟨front, rfl, accepted⟩
  · rintro (⟨rfl, accepted⟩ | ⟨front, rfl, accepted⟩)
    · exact ⟨[], rfl, accepted⟩
    · exact ⟨char :: front, rfl, accepted⟩

end Fronts

private theorem mem_afterRun_go (accepts : Char → Bool) (text rest : List Char)
    (longer : List (List Char)) :
    rest ∈ afterRun.go accepts text longer ↔
      rest ∈ longer ∨ ∃ front, text = front ++ rest ∧ ∀ char ∈ front, accepts char = true := by
  induction text generalizing longer with
  | nil =>
      rw [afterRun.go, exists_front_nil, List.mem_cons, or_comm]
      simp only [List.not_mem_nil, false_implies, implies_true, and_true]
  | cons char text ih =>
      rw [afterRun.go, exists_front_cons]
      simp only [List.not_mem_nil, false_implies, implies_true, and_true, List.forall_mem_cons]
      split
      · rename_i accepted
        simp only [ih, List.mem_cons, accepted, true_and, or_assoc, or_left_comm]
      · rename_i refused
        simp only [List.mem_cons, refused, Bool.false_eq_true, false_and, and_false,
          exists_false, or_false]
        exact or_comm

theorem mem_afterRun (accepts : Char → Bool) (text rest : List Char) :
    rest ∈ afterRun accepts text ↔
      ∃ front, text = front ++ rest ∧ ∀ char ∈ front, accepts char = true := by
  rw [afterRun, mem_afterRun_go]
  simp only [List.not_mem_nil, false_or]

private def IsNumeralTail : Bool → List Char → Prop
  | true, text => AllDigits text
  | false, text =>
      ∃ whole fraction, text = whole ++ fraction ∧ AllDigits whole ∧ IsFraction fraction

private theorem isNumeralTail_nil (pointSeen : Bool) : IsNumeralTail pointSeen [] := by
  cases pointSeen with
  | true => exact List.forall_mem_nil _
  | false => exact ⟨[], [], rfl, List.forall_mem_nil _, Or.inl rfl⟩

private theorem isNumeralTail_digit {char : Char} (digit : Text.isDecimalDigit char = true)
    (pointSeen : Bool) (text : List Char) :
    IsNumeralTail pointSeen (char :: text) ↔ IsNumeralTail pointSeen text := by
  have noPoint : char ≠ '.' := by
    rintro rfl
    exact absurd digit (by decide)
  cases pointSeen with
  | true => exact List.forall_mem_cons.trans (and_iff_right digit)
  | false =>
      constructor
      · rintro ⟨whole, fraction, split, digits, isFraction⟩
        rcases List.cons_eq_append_iff.mp split with ⟨rfl, rfl⟩ | ⟨whole, rfl, rfl⟩
        · rcases isFraction with impossible | ⟨more, point, _⟩
          · cases impossible
          · exact absurd (List.head_eq_of_cons_eq point) noPoint
        · exact ⟨whole, fraction, rfl, (List.forall_mem_cons.mp digits).2, isFraction⟩
      · rintro ⟨whole, fraction, rfl, digits, isFraction⟩
        exact ⟨char :: whole, fraction, rfl, List.forall_mem_cons.mpr ⟨digit, digits⟩, isFraction⟩

private theorem isNumeralTail_other {char : Char} (other : Text.isDecimalDigit char = false)
    (pointSeen : Bool) (text : List Char) :
    IsNumeralTail pointSeen (char :: text) ↔
      (char = '.' ∧ pointSeen = false) ∧ IsNumeralTail true text := by
  cases pointSeen with
  | true =>
      apply iff_of_false
      · intro digits
        rw [digits char List.mem_cons_self] at other
        cases other
      · rintro ⟨⟨_, impossible⟩, _⟩
        cases impossible
  | false =>
      constructor
      · rintro ⟨whole, fraction, split, digits, isFraction⟩
        rcases List.cons_eq_append_iff.mp split with ⟨rfl, rfl⟩ | ⟨whole, rfl, rfl⟩
        · rcases isFraction with impossible | ⟨more, point, digits⟩
          · cases impossible
          · cases point
            exact ⟨⟨rfl, rfl⟩, digits⟩
        · rw [digits char List.mem_cons_self] at other
          cases other
      · rintro ⟨⟨rfl, _⟩, digits⟩
        exact ⟨[], _, rfl, List.forall_mem_nil _, Or.inr ⟨text, rfl, digits⟩⟩

private theorem mem_afterNumeral_go (pointSeen : Bool) (text rest : List Char)
    (longer : List (List Char)) :
    rest ∈ afterNumeral.go pointSeen text longer ↔
      rest ∈ longer ∨ ∃ front, text = front ++ rest ∧ IsNumeralTail pointSeen front := by
  induction text generalizing pointSeen longer with
  | nil =>
      rw [afterNumeral.go, exists_front_nil, List.mem_cons, or_comm]
      simp only [isNumeralTail_nil, and_true]
  | cons char text ih =>
      rw [afterNumeral.go, exists_front_cons]
      simp only [isNumeralTail_nil, and_true]
      split
      · rename_i digit
        simp only [ih, List.mem_cons, isNumeralTail_digit digit, or_assoc, or_left_comm]
      · rename_i other
        rw [Bool.not_eq_true] at other
        simp only [isNumeralTail_other other]
        split
        · rename_i point
          rw [Bool.and_eq_true, decide_eq_true_iff, Bool.not_eq_true'] at point
          simp only [ih, List.mem_cons, point, true_and, and_self, or_assoc, or_left_comm]
        · rename_i noPoint
          rw [Bool.and_eq_true, decide_eq_true_iff, Bool.not_eq_true'] at noPoint
          simp only [noPoint, List.mem_cons, false_and, and_false, exists_false, or_false]
          exact or_comm

private theorem isNumeral_cons_iff (char : Char) (text : List Char) :
    IsNumeral (char :: text) ↔ Text.isDecimalDigit char = true ∧ IsNumeralTail false text := by
  constructor
  · rintro ⟨whole, fraction, split, some, digits, isFraction⟩
    rcases List.cons_eq_append_iff.mp split with ⟨rfl, _⟩ | ⟨whole, rfl, rfl⟩
    · exact absurd rfl some
    · rw [AllDigits, List.forall_mem_cons] at digits
      exact ⟨digits.1, whole, fraction, rfl, digits.2, isFraction⟩
  · rintro ⟨digit, whole, fraction, rfl, digits, isFraction⟩
    exact ⟨char :: whole, fraction, rfl, List.cons_ne_nil _ _,
      List.forall_mem_cons.mpr ⟨digit, digits⟩, isFraction⟩

private theorem not_isNumeral_nil : ¬IsNumeral [] := by
  rintro ⟨whole, fraction, split, some, _⟩
  exact some (List.nil_eq_append_iff.mp split).1

theorem mem_afterNumeral (text rest : List Char) :
    rest ∈ afterNumeral text ↔ ∃ front, text = front ++ rest ∧ IsNumeral front := by
  cases text with
  | nil =>
      rw [afterNumeral, exists_front_nil]
      simp only [not_isNumeral_nil, and_false, List.not_mem_nil]
  | cons char text =>
      rw [afterNumeral, exists_front_cons]
      simp only [not_isNumeral_nil, and_false, false_or, isNumeral_cons_iff]
      split
      · rename_i digit
        simp only [mem_afterNumeral_go, List.not_mem_nil, false_or, digit, true_and]
      · rename_i other
        simp only [List.not_mem_nil, other, Bool.false_eq_true, false_and, and_false, exists_false]

theorem afterWord?_eq_some_iff (key : Char → Char) (spelling text rest : List Char) :
    afterWord? key spelling text = some rest ↔
      ∃ front, text = front ++ rest ∧ front.map key = spelling.map key := by
  induction spelling generalizing text with
  | nil =>
      rw [afterWord?, Option.some.injEq]
      constructor
      · rintro rfl
        exact ⟨[], rfl, rfl⟩
      · rintro ⟨front, rfl, spelled⟩
        rw [List.map_nil, List.map_eq_nil_iff] at spelled
        rw [spelled, List.nil_append]
  | cons letter spelling ih =>
      cases text with
      | nil =>
          rw [afterWord?, exists_front_nil]
          simp only [reduceCtorEq, List.map_nil, List.map_cons, and_false]
      | cons char text =>
          rw [afterWord?, exists_front_cons]
          simp only [List.map_nil, List.map_cons, reduceCtorEq, and_false, false_or,
            List.cons.injEq]
          split
          · rename_i same
            simp only [ih, same, true_and]
          · rename_i different
            simp only [reduceCtorEq, Ne.symm different, false_and, and_false, exists_false]

/-- What may be left behind a pattern is what stands behind a text that it accepts. -/
theorem mem_rests_iff (pattern : Pattern) (text rest : List Char) :
    rest ∈ pattern.rests text ↔ ∃ front, text = front ++ rest ∧ pattern.Accepts front := by
  induction pattern generalizing text rest with
  | single accepts =>
      cases text with
      | nil =>
          rw [rests, exists_front_nil]
          simp only [List.not_mem_nil, not_accepts_single_nil, and_false]
      | cons char text =>
          rw [rests, exists_front_cons]
          simp only [not_accepts_single_nil, and_false, false_or, accepts_single_cons]
          split
          · rename_i accepted
            simp only [accepted, true_and, exists_eq_right, List.nil_append, List.mem_singleton]
            exact eq_comm
          · rename_i refused
            simp only [refused, Bool.false_eq_true, false_and, and_false, exists_false,
              List.not_mem_nil]
  | run accepts => exact mem_afterRun accepts text rest
  | nonemptyRun accepts =>
      cases text with
      | nil =>
          rw [rests, exists_front_nil]
          simp only [List.not_mem_nil, Accepts, ne_eq, not_true, false_and, and_false]
      | cons char text =>
          rw [rests, exists_front_cons]
          simp only [Accepts, ne_eq, not_true, false_and, and_false, false_or, reduceCtorEq,
            not_false_iff, true_and, List.forall_mem_cons]
          split
          · rename_i accepted
            simp only [accepted, true_and, mem_afterRun]
          · rename_i refused
            simp only [refused, Bool.false_eq_true, false_and, and_false, exists_false,
              List.not_mem_nil]
  | numeral => exact mem_afterNumeral text rest
  | word key spelling =>
      rw [rests, Option.mem_toList, afterWord?_eq_some_iff]
      rfl
  | optional pattern ih =>
      rw [rests, List.mem_append, ih, List.mem_singleton]
      constructor
      · rintro (⟨front, split, accepted⟩ | rfl)
        · exact ⟨front, split, Or.inl accepted⟩
        · exact ⟨[], rfl, Or.inr rfl⟩
      · rintro ⟨front, rfl, accepted | rfl⟩
        · exact Or.inl ⟨front, rfl, accepted⟩
        · exact Or.inr rfl
  | either first second ihFirst ihSecond =>
      rw [rests, List.mem_append, ihFirst, ihSecond, ← exists_or]
      simp only [Accepts, and_or_left]
  | andThen first second ihFirst ihSecond =>
      rw [rests, List.mem_flatMap]
      constructor
      · rintro ⟨middle, left, right⟩
        obtain ⟨front, rfl, before⟩ := (ihFirst _ _).mp left
        obtain ⟨back, rfl, behind⟩ := (ihSecond _ _).mp right
        exact ⟨front ++ back, (List.append_assoc _ _ _).symm, front, back, rfl, before, behind⟩
      · rintro ⟨_, rfl, front, back, rfl, before, behind⟩
        exact ⟨back ++ rest, (ihFirst _ _).mpr ⟨front, List.append_assoc _ _ _, before⟩,
          (ihSecond _ _).mpr ⟨back, rfl, behind⟩⟩

theorem startsAt_iff (pattern : Pattern) (text : List Char) :
    pattern.startsAt text = true ↔ ∃ front, front <+: text ∧ pattern.Accepts front := by
  rw [startsAt, Bool.not_eq_true', List.isEmpty_eq_false_iff_exists_mem]
  simp only [mem_rests_iff]
  constructor
  · rintro ⟨rest, front, rfl, accepted⟩
    exact ⟨front, List.prefix_append _ _, accepted⟩
  · rintro ⟨front, ⟨rest, rfl⟩, accepted⟩
    exact ⟨rest, front, rfl, accepted⟩

theorem occursIn_iff (pattern : Pattern) (text : List Char) :
    pattern.occursIn text = true ↔ ∃ found, found <:+: text ∧ pattern.Accepts found := by
  induction text with
  | nil =>
      rw [occursIn, startsAt_iff]
      simp only [List.prefix_nil, List.infix_nil]
  | cons char text ih =>
      rw [occursIn, Bool.or_eq_true, startsAt_iff, ih, ← exists_or]
      simp only [List.infix_cons_iff, or_and_right]

/-- The pieces accept the parts of a text one after the other, and these are the operands. -/
def Fills : List Piece → List Char → List (List Char) → Prop
  | [], text, operands => text = [] ∧ operands = []
  | piece :: pieces, text, operands =>
      ∃ front back more, text = front ++ back ∧ piece.pattern.Accepts front ∧
        operands = piece.found front [] ++ more ∧ Fills pieces back more

private theorem found_append (piece : Piece) (front rest : List Char) :
    piece.found (front ++ rest) rest = piece.found front [] := by
  cases piece with
  | skip pattern => rfl
  | operand pattern =>
      simp only [Piece.found, List.length_append, Nat.add_sub_cancel, List.take_left,
        List.length_nil, Nat.sub_zero, List.take_length]

@[simp]
theorem fills_nil (text : List Char) (operands : List (List Char)) :
    Fills [] text operands ↔ text = [] ∧ operands = [] :=
  Iff.rfl

@[simp]
theorem fills_skip (pattern : Pattern) (pieces : List Piece) (text : List Char)
    (operands : List (List Char)) :
    Fills (.skip pattern :: pieces) text operands ↔
      ∃ front back, text = front ++ back ∧ pattern.Accepts front ∧ Fills pieces back operands := by
  constructor
  · rintro ⟨front, back, more, rfl, accepted, rfl, filled⟩
    exact ⟨front, back, rfl, accepted, filled⟩
  · rintro ⟨front, back, rfl, accepted, filled⟩
    exact ⟨front, back, operands, rfl, accepted, rfl, filled⟩

@[simp]
theorem fills_operand (pattern : Pattern) (pieces : List Piece) (text : List Char)
    (operands : List (List Char)) :
    Fills (.operand pattern :: pieces) text operands ↔
      ∃ front back more, text = front ++ back ∧ pattern.Accepts front ∧ operands = front :: more ∧
        Fills pieces back more := by
  simp only [Fills, Piece.pattern, Piece.found, List.length_nil, Nat.sub_zero, List.take_length,
    List.singleton_append]

section Forms

variable (skipped operand other : Pattern) (text : List Char) (operands : List (List Char))

theorem fills_skip_operand :
    Fills [.skip skipped, .operand operand] text operands ↔
      ∃ front back, text = front ++ back ∧ skipped.Accepts front ∧ operand.Accepts back ∧
        operands = [back] := by
  simp

theorem fills_operand_skip :
    Fills [.operand operand, .skip skipped] text operands ↔
      ∃ front back, text = front ++ back ∧ operand.Accepts front ∧ operands = [front] ∧
        skipped.Accepts back := by
  simp

theorem fills_operand_skip_operand :
    Fills [.operand operand, .skip skipped, .operand other] text operands ↔
      ∃ front middle back, text = front ++ (middle ++ back) ∧ operand.Accepts front ∧
        operands = [front, back] ∧ skipped.Accepts middle ∧ other.Accepts back := by
  simp

end Forms

theorem fills_of_operandsAt {pieces : List Piece} {text : List Char}
    {operands : List (List Char)} (met : operandsAt pieces text = some operands) :
    ∃ front, front <+: text ∧ Fills pieces front operands := by
  induction pieces generalizing text operands with
  | nil =>
      rw [operandsAt, Option.some.injEq] at met
      exact ⟨[], List.nil_prefix, rfl, met.symm⟩
  | cons piece pieces ih =>
      rw [operandsAt] at met
      obtain ⟨rest, member, found⟩ := List.exists_of_findSome?_eq_some met
      obtain ⟨front, rfl, accepted⟩ := (mem_rests_iff _ _ _).mp member
      obtain ⟨more, behind, rfl⟩ := Option.map_eq_some_iff.mp found
      obtain ⟨back, ⟨rest, rfl⟩, filled⟩ := ih behind
      rw [found_append]
      exact ⟨front ++ back, ⟨rest, List.append_assoc _ _ _⟩, front, back, more, rfl, accepted, rfl,
        filled⟩

theorem isSome_operandsAt {pieces : List Piece} {front text : List Char}
    {operands : List (List Char)} (start : front <+: text) (filled : Fills pieces front operands) :
    (operandsAt pieces text).isSome = true := by
  induction pieces generalizing front text operands with
  | nil => rfl
  | cons piece pieces ih =>
      obtain ⟨first, back, more, rfl, accepted, rfl, filled⟩ := filled
      obtain ⟨rest, rfl⟩ := start
      rw [operandsAt, List.findSome?_isSome_iff]
      have behind : back ++ rest ∈ piece.pattern.rests (first ++ back ++ rest) :=
        (mem_rests_iff _ _ _).mpr ⟨first, List.append_assoc _ _ _, accepted⟩
      refine ⟨back ++ rest, behind, ?_⟩
      rw [Option.isSome_map]
      exact ih (List.prefix_append back rest) filled

theorem fills_of_operands? {pieces : List Piece} {text : List Char}
    {operands : List (List Char)} (met : operands? pieces text = some operands) :
    ∃ found, found <:+: text ∧ Fills pieces found operands := by
  induction text with
  | nil =>
      obtain ⟨front, start, filled⟩ := fills_of_operandsAt met
      exact ⟨front, start.isInfix, filled⟩
  | cons char text ih =>
      rw [operands?] at met
      split at met
      · rename_i here
        cases met
        obtain ⟨front, start, filled⟩ := fills_of_operandsAt here
        exact ⟨front, start.isInfix, filled⟩
      · obtain ⟨found, inside, filled⟩ := ih met
        exact ⟨found, List.infix_cons inside, filled⟩

theorem isSome_operands? {pieces : List Piece} {found text : List Char}
    {operands : List (List Char)} (inside : found <:+: text)
    (filled : Fills pieces found operands) : (operands? pieces text).isSome = true := by
  induction text with
  | nil =>
      rw [List.infix_nil] at inside
      rw [inside] at filled
      exact isSome_operandsAt List.prefix_rfl filled
  | cons char text ih =>
      rw [operands?]
      split
      · rfl
      · rename_i absent
        rcases List.infix_cons_iff.mp inside with start | inside
        · have here := isSome_operandsAt start filled
          rw [absent] at here
          cases here
        · exact ih inside

end ChatAssistant.Pattern
