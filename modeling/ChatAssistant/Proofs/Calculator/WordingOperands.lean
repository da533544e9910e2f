import ChatAssistant.Proofs.Calculator.Wording
import ChatAssistant.Proofs.Pattern.FirstChoice

/-!
The operands of each wording. Its parts are met in their first way, and before it there is nothing
that a form with its operand in front begins with.
-/

namespace ChatAssistant.Calculator

open Text Pattern

/-! ### What comes next in a text -/

section Heads

variable {P : Char → Prop} {front rest : List Char}

theorem forall_head_append (all : ∀ char ∈ front, P char) (next : ∀ char ∈ rest.head?, P char) :
    ∀ char ∈ (front ++ rest).head?, P char := by
  cases front with
  | nil => exact next
  | cons first front =>
      rintro char ⟨⟩
      exact all first List.mem_cons_self

theorem forall_head_of_nonempty (nonempty : front ≠ []) (all : ∀ char ∈ front, P char) :
    ∀ char ∈ (front ++ rest).head?, P char := by
  obtain ⟨first, front, rfl⟩ := List.exists_cons_of_ne_nil nonempty
  rintro char ⟨⟩
  exact all first List.mem_cons_self

theorem forall_head_numeral (numeral : Numeral)
    (digits : ∀ char, isDecimalDigit char = true → P char) :
    ∀ char ∈ numeral.text.head?, P char := by
  obtain ⟨whole, fraction, nonempty, wholeDigits, fractionDigits⟩ := numeral
  exact forall_head_of_nonempty nonempty fun char member =>
    digits char (isDecimalDigit_of_isDigit (wholeDigits char member))

end Heads

theorem not_blank_of_digit {char : Char} (digit : isDecimalDigit char = true) :
    isBlank char = false := by
  rw [← Bool.not_eq_true]
  intro blank
  rw [not_digit_of_blank blank] at digit
  cases digit

theorem ne_of_digit {letter : Char} (apart : isDecimalDigit letter = false) {char : Char}
    (digit : isDecimalDigit char = true) : char ≠ letter := by
  rintro rfl
  rw [apart] at digit
  cases digit

theorem ends_of_blank {char : Char} (blank : isBlank char = true) :
    isDecimalDigit char = false ∧ char ≠ '.' := by
  refine ⟨not_digit_of_blank blank, ?_⟩
  rintro rfl
  exact absurd blank (by decide)

theorem endsNumeral_nil : EndsNumeral [] := by
  rintro char ⟨⟩

section Takes

variable {rest : List Char}

theorem takes_blanks (gap : Gap) (stops : Stops isBlank rest) : blanks.Takes gap.text rest :=
  takes_run gap.blank stops

theorem takes_someBlanks (gap : SomeGap) (stops : Stops isBlank rest) :
    someBlanks.Takes gap.text rest :=
  takes_nonemptyRun gap.nonempty gap.blank stops

theorem takes_spelled (word : String) : (spelled word).Takes word.toList rest :=
  takes_word id word.toList

theorem rests_spelled {word : String} (letter : Char) (isFirst : word.toList.head? = some letter)
    (apart : ∀ char ∈ rest.head?, char ≠ letter) : (spelled word).rests rest = [] := by
  obtain ⟨spelling, split⟩ := List.head?_eq_some_iff.mp isFirst
  rw [spelled, split]
  exact rests_word_of_apart fun char isHead => (apart char isHead).symm

theorem takes_last_numeral (numeral : Numeral) : Pattern.numeral.Takes numeral.text [] :=
  takes_numeral numeral.isNumeral endsNumeral_nil

theorem stops_numeral (numeral : Numeral) : Stops isBlank numeral.text :=
  forall_head_numeral numeral fun _ digit => not_blank_of_digit digit

theorem takes_digits (number : WholeNumber) (stops : Stops isDecimalDigit rest) :
    (nonemptyRun isDecimalDigit).Takes number.digits rest :=
  takes_nonemptyRun number.nonempty
    (fun char member => isDecimalDigit_of_isDigit (number.areDigits char member)) stops

theorem stops_digits (number : WholeNumber) : Stops isBlank number.digits := by
  have next : Stops isBlank (number.digits ++ []) :=
    forall_head_of_nonempty number.nonempty fun char member =>
      not_blank_of_digit (isDecimalDigit_of_isDigit (number.areDigits char member))
  rw [List.append_nil] at next
  exact next

theorem stops_nil (accepts : Char → Bool) : Stops accepts [] := by
  rintro char ⟨⟩

theorem stops_word {accepts : Char → Bool} {word : List Char} (nonempty : word ≠ [])
    (refused : ∀ char ∈ word, accepts char = false) : Stops accepts (word ++ rest) :=
  forall_head_of_nonempty nonempty refused

theorem takes_preposition {pattern : Pattern} {front : List Char} (before : Gap)
    (preposition : Option Preposition) (behind : Gap) (base : Numeral)
    (takes : pattern.Takes front
      (before.text ++ (Preposition.text preposition ++ (behind.text ++ base.text)))) :
    (pattern ++ blanks ++ .optional (.either (spelled "от") (spelled "из")) ++ blanks).Takes
      (front ++ before.text ++ Preposition.text preposition ++ behind.text) base.text := by
  have stops := stops_numeral base
  cases preposition with
  | none =>
      -- The first run takes all of the white space, and the one behind the preposition is empty.
      have blank := List.forall_mem_append.mpr ⟨before.blank, behind.blank⟩
      let joined : Gap := ⟨before.text ++ behind.text, blank⟩
      have whole : pattern.Takes front (joined.text ++ base.text) := by
        rw [List.append_assoc]
        exact takes
      have absent : (either (spelled "от") (spelled "из")).rests base.text = [] := by
        have noOt : (spelled "от").rests base.text = [] := rests_spelled 'о' (by decide)
          (forall_head_numeral base fun _ => ne_of_digit (by decide))
        have noIz : (spelled "из").rests base.text = [] := rests_spelled 'и' (by decide)
          (forall_head_numeral base fun _ => ne_of_digit (by decide))
        rw [rests, noOt, noIz]
        rfl
      have taken := takes_append_nil
        (takes_append_nil (takes_append whole (takes_blanks joined stops))
          (takes_optional_nil absent))
        (takes_run (List.forall_mem_nil _) stops)
      rw [← List.append_assoc] at taken
      rw [Preposition.text, List.append_nil]
      exact taken
  | some preposition =>
      have word : (either (spelled "от") (spelled "из")).Takes
          (Preposition.text (some preposition)) (behind.text ++ base.text) := by
        cases preposition with
        | ot => exact takes_either_left (takes_spelled "от")
        | iz =>
            refine takes_either_right ?_ (takes_spelled "из")
            exact rests_spelled 'о' (by decide)
              (forall_head_of_nonempty (by decide) (by decide))
      have refused : Preposition.text (some preposition) ≠ [] ∧
          ∀ char ∈ Preposition.text (some preposition), isBlank char = false := by
        cases preposition with
        | ot => decide
        | iz => decide
      have gap := takes_append takes (takes_blanks before (stops_word refused.1 refused.2))
      exact takes_append (takes_append gap (takes_optional word)) (takes_blanks behind stops)

def percentMark : Pattern :=
  blanks ++ .either (spelled "%") (spelled "процент" ++ .run isWordCharacter)

theorem takes_percentSign (gap : Gap) :
    percentMark.Takes (gap.text ++ "%".toList) rest := by
  have stops : Stops isBlank ("%".toList ++ rest) := stops_word (by decide) (by decide)
  exact takes_append (takes_blanks gap stops) (takes_either_left (takes_spelled "%"))

theorem takes_percentWord (gap : Gap) (ending : Ending) (stops : Stops isWordCharacter rest) :
    percentMark.Takes (gap.text ++ ("процент".toList ++ ending.text)) rest := by
  have letters : ∀ char ∈ ending.text, isWordCharacter char = true := fun char member =>
    isWordCharacter_of_cyrillic (ending.letters char member).1
  have word := takes_append (takes_spelled "процент") (takes_run letters stops)
  have behind : ∀ char ∈ ("процент".toList ++ (ending.text ++ rest)).head?,
      isBlank char = false ∧ char ≠ '%' :=
    forall_head_of_nonempty (by decide) (by decide)
  rw [← List.append_assoc] at behind
  have absent : (spelled "%").rests ("процент".toList ++ ending.text ++ rest) = [] :=
    rests_spelled '%' (by decide) fun char isHead => (behind char isHead).2
  exact takes_append (takes_blanks gap fun char isHead => (behind char isHead).1)
    (takes_either_right absent word)

theorem stops_word_gap (gap : SomeGap) : Stops isWordCharacter (gap.text ++ rest) :=
  forall_head_of_nonempty gap.nonempty fun char member => not_word_of_blank (gap.blank char member)

theorem endsNumeral_gap (gap : Gap) (next : EndsNumeral rest) : EndsNumeral (gap.text ++ rest) :=
  forall_head_append (fun char member => ends_of_blank (gap.blank char member)) next

theorem endsNumeral_word {word : List Char} (nonempty : word ≠ [])
    (apart : ∀ char ∈ word, isDecimalDigit char = false ∧ char ≠ '.') :
    EndsNumeral (word ++ rest) :=
  forall_head_of_nonempty nonempty apart

end Takes

namespace Wording

/-! ### The operands of a wording -/

def form : Wording → List Piece
  | .root _ _ _ => squareRootForm
  | .factorialSign _ _ => factorialSignForm
  | .factorialWord _ _ _ => factorialWordForm
  | .percentSign _ _ _ _ _ _ => percentageForm
  | .percentWord _ _ _ _ _ _ _ => percentageForm
  | .power _ _ _ _ _ => powerForm

def operands : Wording → List (List Char)
  | .root _ _ radicand => [radicand.text]
  | .factorialSign number _ => [number.digits]
  | .factorialWord _ _ number => [number.digits]
  | .percentSign percent _ _ _ _ base => [percent.text, base.text]
  | .percentWord percent _ _ _ _ _ base => [percent.text, base.text]
  | .power base _ _ _ exponent => [base.text, exponent.text]

theorem operandsAt_pair {link : Pattern} {first second : Numeral} {between : List Char}
    (ends : EndsNumeral (between ++ second.text)) (takes : link.Takes between second.text) :
    operandsAt [.operand .numeral, .skip link, .operand .numeral]
        (first.text ++ (between ++ second.text)) = some [first.text, second.text] :=
  operandsAt_operand (takes_numeral first.isNumeral ends)
    (operandsAt_skip takes (operandsAt_last (takes_last_numeral second)))

theorem rests_square (rest : List Char) :
    (spelled "квадратный" ++ someBlanks).rests ("корень".toList ++ rest) = [] := by
  have square : "квадратный".toList = 'к' :: 'в' :: "адратный".toList := by decide
  have root : "корень".toList = 'к' :: 'о' :: "рень".toList := by decide
  apply rests_append_of_absent
  rw [spelled, square, root]
  rfl

theorem takes_root (gap : SomeGap) (preposition : Option SomeGap) (radicand : Numeral) :
    (.optional (spelled "квадратный" ++ someBlanks) ++ spelled "корень" ++ someBlanks ++
        .optional (spelled "из" ++ someBlanks)).Takes
      (link (.root gap preposition radicand)) radicand.text := by
  have stops := stops_numeral radicand
  have named {rest : List Char} :
      (.optional (spelled "квадратный" ++ someBlanks) ++ spelled "корень").Takes
        "корень".toList rest :=
    takes_append (takes_optional_nil (rests_square rest)) (takes_spelled "корень")
  cases preposition with
  | none =>
      have absent : (spelled "из" ++ someBlanks).rests radicand.text = [] :=
        rests_append_of_absent (rests_spelled 'и' (by decide)
          (forall_head_numeral radicand fun _ => ne_of_digit (by decide)))
      exact takes_append_nil (takes_append named (takes_someBlanks gap stops))
        (takes_optional_nil absent)
  | some behind =>
      have word := takes_append (takes_spelled "из") (takes_someBlanks behind stops)
      refine takes_append (takes_append named (takes_someBlanks gap ?_)) (takes_optional word)
      rw [List.append_assoc]
      exact stops_word (by decide) (by decide)

theorem operandsAt_text (wording : Wording) :
    operandsAt wording.form wording.text = some wording.operands := by
  cases wording with
  | root gap preposition radicand =>
      exact operandsAt_skip (takes_either_left (takes_root gap preposition radicand))
        (operandsAt_last (takes_last_numeral radicand))
  | factorialSign number gap =>
      have sign : (blanks ++ spelled "!").Takes (gap.text ++ "!".toList) [] :=
        takes_append (takes_blanks gap (stops_word (by decide) (by decide))) (takes_spelled "!")
      have behind : operandsAt [.skip (blanks ++ spelled "!")] (gap.text ++ "!".toList ++ []) =
          some [] := operandsAt_skip sign rfl
      rw [List.append_nil] at behind
      have stops : Stops isDecimalDigit (gap.text ++ "!".toList) :=
        forall_head_append (fun char member => not_digit_of_blank (gap.blank char member))
          (by decide)
      exact operandsAt_operand (takes_digits number stops) behind
  | factorialWord ending gap number =>
      have letters : ∀ char ∈ ending.text, isWordCharacter char = true := fun char member =>
        isWordCharacter_of_cyrillic (ending.letters char member).1
      have word := takes_append (takes_append (takes_spelled "факториал")
        (takes_run letters (stops_word_gap gap))) (takes_someBlanks gap (stops_digits number))
      exact operandsAt_skip word (operandsAt_last (takes_digits number (stops_nil isDecimalDigit)))
  | percentSign percent gap before preposition behind base =>
      have takes := takes_preposition before preposition behind base (takes_percentSign gap)
      refine operandsAt_pair ?_ takes
      show EndsNumeral (gap.text ++ "%".toList ++ before.text ++ Preposition.text preposition ++
        behind.text ++ base.text)
      rw [append_link]
      exact endsNumeral_gap gap (endsNumeral_word (by decide) (by decide))
  | percentWord percent gap ending before preposition behind base =>
      have takes := takes_preposition before.toGap preposition behind base
        (takes_percentWord gap ending (stops_word_gap before))
      refine operandsAt_pair ?_ takes
      show EndsNumeral (gap.text ++ ("процент".toList ++ ending.text) ++ before.text ++
        Preposition.text preposition ++ behind.text ++ base.text)
      rw [append_link, List.append_assoc "процент".toList]
      exact endsNumeral_gap gap (endsNumeral_word (by decide) (by decide))
  | power base gap between behind exponent =>
      have stops := stops_numeral exponent
      have raising : (blanks ++ spelled "в" ++ someBlanks ++ spelled "степени" ++ blanks).Takes
          (gap.text ++ "в".toList ++ between.text ++ "степени".toList ++ behind.text)
          exponent.text := by
        refine takes_append (takes_append (takes_append (takes_append (takes_blanks gap ?_)
          (takes_spelled "в")) (takes_someBlanks between ?_)) (takes_spelled "степени"))
          (takes_blanks behind stops)
        · exact stops_word (by decide) (by decide)
        · exact stops_word (by decide) (by decide)
      refine operandsAt_pair ?_ raising
      show EndsNumeral (gap.text ++ "в".toList ++ between.text ++ "степени".toList ++
        behind.text ++ exponent.text)
      rw [append_link]
      exact endsNumeral_gap gap (endsNumeral_word (by decide) (by decide))

/-! ### The operands behind other words -/

theorem not_digit_of_leadIn (lead : LeadIn) :
    ∀ char ∈ lead.text, isDecimalDigit char = false := by
  intro char member
  rcases lead.characters char member with small | blank
  · exact not_digit_of_cyrillic small.1
  · exact not_digit_of_blank blank

theorem operandsAt_of_absent {pattern : Pattern} {pieces : List Piece} {text : List Char}
    (absent : pattern.rests text = []) : operandsAt (.operand pattern :: pieces) text = none := by
  rw [operandsAt, Piece.pattern, absent]
  rfl

theorem rests_numeral {char : Char} (noDigit : isDecimalDigit char = false) (rest : List Char) :
    Pattern.numeral.rests (char :: rest) = [] := by
  rw [rests, afterNumeral, noDigit]
  rfl

theorem rests_digits {char : Char} (noDigit : isDecimalDigit char = false) (rest : List Char) :
    (nonemptyRun isDecimalDigit).rests (char :: rest) = [] := by
  rw [rests, noDigit]
  rfl

theorem exists_digit_of_rests {pattern : Pattern}
    (absent : ∀ char, isDecimalDigit char = false → ∀ rest, pattern.rests (char :: rest) = [])
    (empty : pattern.rests [] = []) (text : List Char) (begins : pattern.rests text ≠ []) :
    ∃ char ∈ text.head?, isDecimalDigit char = true := by
  cases text with
  | nil => exact absurd empty begins
  | cons char rest =>
      refine ⟨char, rfl, ?_⟩
      by_contra noDigit
      exact begins (absent char (Bool.not_eq_true _ ▸ noDigit) rest)

theorem accepts_someBlanks {pattern : Pattern} {front : List Char}
    (accepted : (pattern ++ someBlanks).Accepts front) :
    ∃ before char, front = before ++ [char] ∧ isBlank char = true := by
  obtain ⟨first, gap, rfl, _, nonempty, blank⟩ := accepted
  refine ⟨first ++ gap.dropLast, gap.getLast nonempty, ?_, blank _ (List.getLast_mem nonempty)⟩
  rw [List.append_assoc, List.dropLast_append_getLast]

theorem not_blank_of_numeral {char : Char} (isPart : Arithmetic.isNumeralCharacter char = true) :
    isBlank char = false := by
  rcases Bool.or_eq_true_iff.mp isPart with digit | point
  · exact not_blank_of_digit (isDecimalDigit_of_isDigit digit)
  · rw [of_decide_eq_true point]
    decide

theorem not_digit_of_link {char : Char} (isLink : IsLinkCharacter char) :
    isDecimalDigit char = false := by
  rcases isLink with small | blank | rfl | rfl
  · exact not_digit_of_cyrillic small.1
  · exact not_digit_of_blank blank
  · decide
  · decide

/-- Where a form ends with its only operand, this is all that a text with the form ends with. -/
theorem operands?_eq_of_last (lead : LeadIn) (wording : Wording) {skipped operand : Pattern}
    {last : List Char} (isForm : wording.form = [.skip skipped, .operand operand])
    (isText : wording.text = wording.link ++ last) (takes : operand.Takes last [])
    (areDigits : ∀ char ∈ last, Arithmetic.isNumeralCharacter char = true)
    (absent : ∀ char, isDecimalDigit char = false → ∀ rest, operand.rests (char :: rest) = [])
    (empty : operand.rests [] = [])
    (blank : ∀ front, front <:+: lead.text ++ wording.text → skipped.Accepts front →
      ∃ before char, front = before ++ [char] ∧ isBlank char = true) :
    operands? wording.form (lead.text ++ wording.text) = some [last] := by
  have found := isSome_operands?_append (operandsAt_text wording) lead.text
  obtain ⟨operands, met⟩ := Option.isSome_iff_exists.mp found
  have others : ∀ char ∈ lead.text ++ wording.link, isDecimalDigit char = false := by
    rw [List.forall_mem_append]
    exact ⟨not_digit_of_leadIn lead, fun char member =>
      not_digit_of_link (isLinkCharacter_of_mem wording char member)⟩
  have apart : ∀ front, front <:+: lead.text ++ wording.text → skipped.Accepts front →
      ∃ before char, front = before ++ [char] ∧ char ∉ last := by
    intro front inside accepted
    obtain ⟨before, char, split, isBlank⟩ := blank front inside accepted
    refine ⟨before, char, split, fun member => ?_⟩
    rw [not_blank_of_numeral (areDigits char member)] at isBlank
    cases isBlank
  rw [met]
  rw [isForm, isText, ← List.append_assoc] at met
  rw [isText, ← List.append_assoc] at apart
  rw [operands_eq_of_last met takes isDecimalDigit (exists_digit_of_rests absent empty) others
    apart]

theorem not_mem_of_leadIn (lead : LeadIn) (wording : Wording) :
    's' ∉ lead.text ++ wording.text := by
  have isNoLink : ¬IsLinkCharacter 's' := by decide
  have inText : ∀ char ∈ wording.text, char ≠ 's' := by
    refine forall_mem_text wording ?_ ?_
    · rintro char member rfl
      exact isNoLink (isLinkCharacter_of_mem wording _ member)
    · rintro char isPart rfl
      exact absurd isPart (by decide)
  refine List.not_mem_append (fun member => ?_) fun member => inText _ member rfl
  exact isNoLink ((lead.characters _ member).imp_right .inl)

theorem operands?_text (lead : LeadIn) (wording : Wording) :
    operands? wording.form (lead.text ++ wording.text) = some wording.operands := by
  have here := operandsAt_text wording
  have outside := not_digit_of_leadIn lead
  cases wording with
  | factorialSign number gap =>
      refine (operands?_append ?_ _).trans (operands?_of_operandsAt here)
      intro char member rest
      exact operandsAt_of_absent (rests_digits (outside char member) rest)
  | percentSign | percentWord | power =>
      refine (operands?_append ?_ _).trans (operands?_of_operandsAt here)
      intro char member rest
      exact operandsAt_of_absent (rests_numeral (outside char member) rest)
  | factorialWord ending gap number =>
      refine operands?_eq_of_last lead _ rfl rfl (takes_digits number (stops_nil isDecimalDigit))
        ?_ (fun _ => rests_digits) rfl fun front _ accepted => accepts_someBlanks accepted
      intro char member
      exact Bool.or_eq_true_iff.mpr (.inl (number.areDigits char member))
  | root gap preposition radicand =>
      refine operands?_eq_of_last lead _ rfl rfl (takes_last_numeral radicand)
        radicand.characters (fun _ => rests_numeral) rfl ?_
      rintro front inside (⟨named, behind, rfl, before, accepted⟩ | accepted)
      · rcases accepted with word | rfl
        · obtain ⟨more, char, rfl, blank⟩ := accepts_someBlanks word
          exact ⟨named ++ more, char, (List.append_assoc _ _ _).symm, blank⟩
        · rw [List.append_nil]
          exact accepts_someBlanks before
      · obtain ⟨_, behind, rfl, ⟨_, mark, rfl, ⟨name, gap, rfl, spelt, _⟩, _⟩, _⟩ := accepted
        rw [accepts_spelled] at spelt
        subst spelt
        have member : 's' ∈ "sqrt".toList ++ gap ++ mark ++ behind :=
          List.mem_append_left _ (List.mem_append_left _ (List.mem_append_left _ (by decide)))
        exact absurd (inside.subset member) (not_mem_of_leadIn lead _)

end Wording

end ChatAssistant.Calculator
