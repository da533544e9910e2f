import ChatAssistant.Proofs.Pattern.Language

/-!
The first way to meet a pattern. A run goes as far as it can; where each part of a pattern succeeds
in its first way, so does the whole, and no other way is tried.
-/

namespace ChatAssistant.Pattern

variable {pattern first second : Pattern} {front middle back rest text : List Char}

/-- The first of the ways to meet the pattern takes just this front of the text. -/
def Takes (pattern : Pattern) (front rest : List Char) : Prop :=
  (pattern.rests (front ++ rest)).head? = some rest

def Stops (accepts : Char → Bool) (rest : List Char) : Prop :=
  ∀ char ∈ rest.head?, accepts char = false

/-! ### Runs and numerals -/

section Runs

variable {accepts : Char → Bool}

private theorem head?_afterRun_go (accepted : ∀ char ∈ front, accepts char = true)
    (stops : Stops accepts rest) (longer : List (List Char)) :
    (afterRun.go accepts (front ++ rest) longer).head? = some rest := by
  induction front generalizing longer with
  | nil =>
      cases rest with
      | nil => rfl
      | cons char rest =>
          rw [List.nil_append, afterRun.go, stops char rfl]
          rfl
  | cons char front ih =>
      rw [List.forall_mem_cons] at accepted
      rw [List.cons_append, afterRun.go, if_pos accepted.1]
      exact ih accepted.2 _

theorem takes_run (accepted : ∀ char ∈ front, accepts char = true)
    (stops : Stops accepts rest) : (run accepts).Takes front rest :=
  head?_afterRun_go accepted stops []

theorem takes_nonemptyRun (nonempty : front ≠ []) (accepted : ∀ char ∈ front, accepts char = true)
    (stops : Stops accepts rest) : (nonemptyRun accepts).Takes front rest := by
  obtain ⟨char, front, rfl⟩ := List.exists_cons_of_ne_nil nonempty
  rw [List.forall_mem_cons] at accepted
  rw [Takes, List.cons_append, rests, if_pos accepted.1]
  exact takes_run accepted.2 stops

def EndsNumeral (rest : List Char) : Prop :=
  ∀ char ∈ rest.head?, Text.isDecimalDigit char = false ∧ char ≠ '.'

private theorem head?_afterNumeral_digits (digits : AllDigits front) (ends : EndsNumeral rest)
    (pointSeen : Bool) (longer : List (List Char)) :
    (afterNumeral.go pointSeen (front ++ rest) longer).head? = some rest := by
  induction front generalizing longer with
  | nil =>
      cases rest with
      | nil => rfl
      | cons char rest =>
          obtain ⟨noDigit, noPoint⟩ := ends char rfl
          rw [List.nil_append, afterNumeral.go, noDigit, decide_eq_false noPoint]
          rfl
  | cons char front ih =>
      rw [AllDigits, List.forall_mem_cons] at digits
      rw [List.cons_append, afterNumeral.go, if_pos digits.1]
      exact ih digits.2 _

private theorem head?_afterNumeral_fraction {whole fraction : List Char} (digits : AllDigits whole)
    (isFraction : IsFraction fraction) (ends : EndsNumeral rest) (longer : List (List Char)) :
    (afterNumeral.go false (whole ++ (fraction ++ rest)) longer).head? = some rest := by
  rcases isFraction with rfl | ⟨places, rfl, placeDigits⟩
  · exact head?_afterNumeral_digits digits ends false longer
  · induction whole generalizing longer with
    | nil =>
        have point : Text.isDecimalDigit '.' = false := by decide
        rw [List.nil_append, List.cons_append, afterNumeral.go, point]
        exact head?_afterNumeral_digits placeDigits ends true _
    | cons char whole ih =>
        rw [AllDigits, List.forall_mem_cons] at digits
        rw [List.cons_append, afterNumeral.go, if_pos digits.1]
        exact ih digits.2 _

theorem takes_numeral (isNumeral : IsNumeral front) (ends : EndsNumeral rest) :
    numeral.Takes front rest := by
  obtain ⟨whole, fraction, rfl, nonempty, digits, isFraction⟩ := isNumeral
  obtain ⟨char, whole, rfl⟩ := List.exists_cons_of_ne_nil nonempty
  rw [AllDigits, List.forall_mem_cons] at digits
  rw [Takes, List.append_assoc, List.cons_append, rests, afterNumeral, if_pos digits.1]
  exact head?_afterNumeral_fraction digits.2 isFraction ends []

end Runs

/-! ### Words, alternatives and sequences -/

theorem takes_word (key : Char → Char) (spelling : List Char) :
    (word key spelling).Takes spelling rest := by
  have taken : afterWord? key spelling (spelling ++ rest) = some rest := by
    rw [afterWord?_eq_some_iff]
    exact ⟨spelling, rfl, rfl⟩
  rw [Takes, rests, taken]
  rfl

theorem takes_optional (takes : pattern.Takes front rest) :
    (optional pattern).Takes front rest := by
  rw [Takes, rests, List.head?_append, takes]
  rfl

theorem takes_optional_nil (absent : pattern.rests rest = []) :
    (optional pattern).Takes [] rest := by
  rw [Takes, rests, List.nil_append, absent]
  rfl

theorem takes_either_left (takes : first.Takes front rest) :
    (either first second).Takes front rest := by
  rw [Takes, rests, List.head?_append, takes]
  rfl

theorem takes_either_right (absent : first.rests (front ++ rest) = [])
    (takes : second.Takes front rest) : (either first second).Takes front rest := by
  rw [Takes, rests, absent]
  exact takes

theorem takes_append (before : first.Takes front (middle ++ rest))
    (behind : second.Takes middle rest) : (first ++ second).Takes (front ++ middle) rest := by
  obtain ⟨others, isFirst⟩ := List.head?_eq_some_iff.mp before
  show ((first.rests (front ++ middle ++ rest)).flatMap second.rests).head? = some rest
  rw [List.append_assoc, isFirst, List.flatMap_cons, List.head?_append, behind]
  rfl

theorem takes_append_nil (before : first.Takes front rest) (behind : second.Takes [] rest) :
    (first ++ second).Takes front rest := by
  have whole : (first ++ second).Takes (front ++ []) rest := takes_append before behind
  rw [List.append_nil] at whole
  exact whole

theorem rests_append_of_absent (absent : first.rests text = []) :
    (first ++ second).rests text = [] := by
  show (first.rests text).flatMap second.rests = []
  rw [absent]
  rfl

theorem rests_word_of_apart {key : Char → Char} {letter : Char} {spelling : List Char}
    (apart : ∀ char ∈ text.head?, key letter ≠ key char) :
    (word key (letter :: spelling)).rests text = [] := by
  cases text with
  | nil => rfl
  | cons char text =>
      rw [rests, afterWord?, if_neg (apart char rfl)]
      rfl

/-! ### Pieces and their operands -/

section Pieces

variable {pieces : List Piece} {operands : List (List Char)}

theorem operandsAt_skip (takes : pattern.Takes front rest)
    (behind : operandsAt pieces rest = some operands) :
    operandsAt (.skip pattern :: pieces) (front ++ rest) = some operands := by
  obtain ⟨others, isFirst⟩ := List.head?_eq_some_iff.mp takes
  rw [operandsAt, Piece.pattern, isFirst, List.findSome?_cons, behind]
  rfl

theorem operandsAt_operand (takes : pattern.Takes front rest)
    (behind : operandsAt pieces rest = some operands) :
    operandsAt (.operand pattern :: pieces) (front ++ rest) = some (front :: operands) := by
  obtain ⟨others, isFirst⟩ := List.head?_eq_some_iff.mp takes
  have found : (Piece.operand pattern).found (front ++ rest) rest = [front] := by
    rw [Piece.found, List.length_append, Nat.add_sub_cancel, List.take_left]
  rw [operandsAt, Piece.pattern, isFirst, List.findSome?_cons, behind, Option.map_some, found]
  rfl

theorem operandsAt_last (takes : pattern.Takes front []) :
    operandsAt [.operand pattern] front = some [front] := by
  have whole : operandsAt [.operand pattern] (front ++ []) = some [front] :=
    operandsAt_operand takes rfl
  rw [List.append_nil] at whole
  exact whole

theorem operands?_of_operandsAt (met : operandsAt pieces text = some operands) :
    operands? pieces text = some operands := by
  cases text with
  | nil => exact met
  | cons char text => rw [operands?, met]

theorem operands?_append {lead : List Char}
    (absent : ∀ char ∈ lead, ∀ rest, operandsAt pieces (char :: rest) = none) (text : List Char) :
    operands? pieces (lead ++ text) = operands? pieces text := by
  induction lead with
  | nil => rfl
  | cons char lead ih =>
      rw [List.forall_mem_cons] at absent
      rw [List.cons_append, operands?, absent.1]
      exact ih absent.2

theorem isSome_operands?_append (met : operandsAt pieces text = some operands)
    (lead : List Char) : (operands? pieces (lead ++ text)).isSome = true := by
  induction lead with
  | nil =>
      rw [List.nil_append, operands?_of_operandsAt met]
      rfl
  | cons char lead ih =>
      rw [List.cons_append, operands?]
      split
      · rfl
      · exact ih

theorem exists_suffix_of_operands? (met : operands? pieces text = some operands) :
    ∃ before behind, text = before ++ behind ∧ operandsAt pieces behind = some operands := by
  induction text with
  | nil => exact ⟨[], [], rfl, met⟩
  | cons char text ih =>
      rw [operands?] at met
      split at met
      · rename_i here
        cases met
        exact ⟨[], char :: text, rfl, here⟩
      · obtain ⟨before, behind, rfl, found⟩ := ih met
        exact ⟨char :: before, behind, rfl, found⟩

theorem exists_rest_of_operandsAt_skip
    (met : operandsAt (.skip pattern :: pieces) text = some operands) :
    ∃ front rest, text = front ++ rest ∧ pattern.Accepts front ∧
      operandsAt pieces rest = some operands := by
  rw [operandsAt] at met
  obtain ⟨rest, member, found⟩ := List.exists_of_findSome?_eq_some met
  obtain ⟨front, split, accepted⟩ := (mem_rests_iff _ _ _).mp member
  obtain ⟨same, behind, rfl⟩ := Option.map_eq_some_iff.mp found
  exact ⟨front, rest, split, accepted, behind⟩

/-- Wherever the form is met, its operand is all that the text ends with: nothing else begins like
an operand, and what goes before an operand does not end inside of it. -/
theorem operands_eq_of_last {skipped operand : Pattern} {lead last : List Char}
    (met : operands? [.skip skipped, .operand operand] (lead ++ last) = some operands)
    (takes : operand.Takes last []) (starts : Char → Bool)
    (begins : ∀ text, operand.rests text ≠ [] → ∃ char ∈ text.head?, starts char = true)
    (others : ∀ char ∈ lead, starts char = false)
    (apart : ∀ front, front <:+: lead ++ last → skipped.Accepts front →
      ∃ before char, front = before ++ [char] ∧ char ∉ last) :
    operands = [last] := by
  obtain ⟨before, behind, split, here⟩ := exists_suffix_of_operands? met
  obtain ⟨front, rest, rfl, accepted, found⟩ := exists_rest_of_operandsAt_skip here
  have inside : front <:+: lead ++ last := ⟨before, rest, by rw [split, List.append_assoc]⟩
  obtain ⟨inner, char, rfl, outside⟩ := apart front inside accepted
  have same : rest = last := by
    rw [← List.append_assoc] at split
    rcases List.append_eq_append_iff.mp split with ⟨more, isFront, isLast⟩ | ⟨more, isLead, isRest⟩
    · -- What is skipped would end inside of the last operand, with a character that is not in it.
      cases more using List.reverseRecOn with
      | nil => exact isLast.symm
      | append_singleton more final =>
          rw [← List.append_assoc, ← List.append_assoc] at isFront
          have isFinal := List.append_inj_right' isFront rfl
          rw [List.cons.injEq] at isFinal
          rw [isLast, isFinal.1] at outside
          exact absurd (List.mem_append_left rest (List.mem_append_right more
            (List.mem_singleton_self final))) outside
    · -- The operand would begin in the text before, where nothing begins like one.
      cases more with
      | nil => exact isRest
      | cons next more =>
          have nonempty : operand.rests rest ≠ [] := by
            intro empty
            rw [operandsAt, Piece.pattern, empty] at found
            cases found
          obtain ⟨first, isFirst, startsHere⟩ := begins rest nonempty
          rw [isRest] at isFirst
          cases isFirst
          have inLead : next ∈ lead := isLead ▸ List.mem_append_right _ List.mem_cons_self
          rw [others next inLead] at startsHere
          cases startsHere
  rw [same, operandsAt_last takes] at found
  cases found
  rfl

end Pieces

end ChatAssistant.Pattern
