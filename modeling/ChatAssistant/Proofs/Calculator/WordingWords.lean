import ChatAssistant.Proofs.Calculator.Wording

/-!
The words and signs by which forms are known, in texts with a wording: none is there but that of the
wording itself, and none comes about where two parts of a text meet.
-/

namespace ChatAssistant.Calculator

open Text

/-! ### Parts of texts -/

section Parts

variable {part left right word ending : List Char}

theorem not_isInfix_of_not_mem {char : Char} (inPart : char ∈ part) (absent : char ∉ right) :
    ¬part <:+: right :=
  fun inside => absent (inside.subset inPart)

theorem not_isInfix_append (inWord : ¬part <:+: word) (inEnding : ¬part <:+: ending)
    (overlaps : ∀ count < part.length, ¬part.take (count + 1) <:+ word) :
    ¬part <:+: word ++ ending := by
  intro inside
  rcases List.infix_append_iff.mp inside with before | behind | ⟨front, back, rfl, ends, starts⟩
  · exact inWord before
  · exact inEnding behind
  · cases front with
    | nil => exact inEnding starts.isInfix
    | cons first front =>
        apply overlaps front.length
        · rw [List.length_append, List.length_cons]
          omega
        · rw [List.cons_append, List.take_succ_cons, List.take_left]
          exact ends

theorem isInfix_behind (nonempty : part ≠ []) (apart : ∀ char ∈ left, char ∉ part)
    (inside : part <:+: left ++ right) : part <:+: right := by
  induction left with
  | nil => exact inside
  | cons char left ih =>
      rw [List.forall_mem_cons] at apart
      rw [List.cons_append] at inside
      rcases List.infix_cons_iff.mp inside with starts | behind
      · obtain ⟨first, more, rfl⟩ := List.exists_cons_of_ne_nil nonempty
        rw [List.cons_prefix_cons] at starts
        exact absurd (starts.1 ▸ List.mem_cons_self) apart.1
      · exact ih apart.2 behind

theorem isInfix_beside_gap (gap : SomeGap) (visible : ∀ char ∈ part, isBlank char = false)
    (inside : part <:+: left ++ (gap.text ++ right)) :
    part <:+: left ∨ ∃ more, more <:+ gap.text ∧ part <:+: more ++ right := by
  obtain ⟨blank, more, split⟩ := List.exists_cons_of_ne_nil gap.nonempty
  have isBlank := gap.blank blank (split ▸ List.mem_cons_self)
  have apart : blank ∉ part := by
    intro member
    rw [visible blank member] at isBlank
    cases isBlank
  rw [split, List.cons_append] at inside
  refine (isInfix_beside apart inside).imp_right fun behind => ⟨more, ?_, behind⟩
  rw [split]
  exact List.suffix_cons blank more

end Parts

/-! ### Words before a wording -/

theorem visible_of_naming {word : String} (naming : word ∈ namingWords) :
    word.toList ≠ [] ∧ ∀ char ∈ word.toList, isBlank char = false := by
  have table : ∀ word ∈ namingWords,
      word.toList ≠ [] ∧ ∀ char ∈ word.toList, isBlank char = false := by
    decide
  exact table word naming

theorem LeadIn.isInfix_text (lead : LeadIn) {word : String} (naming : word ∈ namingWords)
    {text : List Char} (inside : word.toList <:+: lead.text ++ text) :
    word.toList <:+: text := by
  have table : ∀ word ∈ namingWords, word ∈ namingStems ∨
      ∃ char ∈ word.toList, ¬IsSmallLetter char ∧ isBlank char = false := by
    decide
  obtain ⟨lead, characters, ends, unnamed⟩ := lead
  cases lead using List.reverseRecOn with
  | nil => exact inside
  | append_singleton before last =>
      have isBlank := ends last List.getLast?_concat
      have apart : last ∉ word.toList := by
        intro member
        rw [(visible_of_naming naming).2 last member] at isBlank
        cases isBlank
      dsimp only at inside
      rw [List.append_assoc, List.singleton_append] at inside
      refine (isInfix_beside apart inside).resolve_left fun outside => ?_
      have inLead := outside.trans (List.prefix_append before [last]).isInfix
      rcases table word naming with isStem | ⟨char, member, noLetter, noBlank⟩
      · exact unnamed word isStem inLead
      · rcases characters char (inLead.subset member) with small | blank
        · exact noLetter small
        · rw [noBlank] at blank
          cases blank

namespace Wording

/-! ### Words within a wording -/

section Absent

variable {char : Char} (noNumeral : Arithmetic.isNumeralCharacter char = false)
  (noBlank : isBlank char = false)

include noBlank in
theorem not_mem_gap (gap : Gap) : char ∉ gap.text := by
  intro member
  rw [gap.blank char member] at noBlank
  cases noBlank

include noNumeral in
theorem not_mem_numeral (numeral : Numeral) : char ∉ numeral.text := by
  intro member
  rw [numeral.characters char member] at noNumeral
  cases noNumeral

include noNumeral in
theorem not_mem_digits (number : WholeNumber) : char ∉ number.digits := by
  intro member
  have isPart : Arithmetic.isNumeralCharacter char = true :=
    Bool.or_eq_true_iff.mpr (.inl (number.areDigits char member))
  rw [isPart] at noNumeral
  cases noNumeral

include noNumeral noBlank in
/-- A character that is in no numeral and no gap is by the form in a wording, or not at all. -/
theorem not_mem_text {wording : Wording} (noLetter : char ∉ wording.letters)
    (noEnding : char ∉ wording.ending) : char ∉ wording.text := by
  have link : ∀ other ∈ wording.link, other ≠ char := by
    refine forall_mem_link wording ?_ (fun other member => ne_of_mem_of_not_mem member noLetter)
      fun other member => ne_of_mem_of_not_mem member noEnding
    rintro other blank rfl
    rw [blank] at noBlank
    cases noBlank
  have apart : ∀ other ∈ wording.text, other ≠ char := by
    refine forall_mem_text wording link ?_
    rintro other isPart rfl
    rw [isPart] at noNumeral
    cases noNumeral
  exact fun member => apart char member rfl

end Absent

theorem not_mem_ending {char : Char} (noSmall : ¬IsSmallLetter char) (wording : Wording) :
    char ∉ wording.ending :=
  fun member => noSmall (isSmallLetter_of_ending wording char member)

theorem not_isInfix_of_apart (wording : Wording) {word : String}
    (apart : ∃ char ∈ word.toList, Arithmetic.isNumeralCharacter char = false ∧
      isBlank char = false ∧ char ∉ wording.letters ∧ char ∉ wording.ending) :
    ¬word.toList <:+: wording.text := by
  obtain ⟨char, member, noNumeral, noBlank, noLetter, noEnding⟩ := apart
  exact not_isInfix_of_not_mem member (not_mem_text noNumeral noBlank noLetter noEnding)

/-- The words and signs of the forms that are tried before that of the wording. -/
def earlier : Wording → List String
  | .root _ _ _ => []
  | .factorialSign _ _ => ["корень", "sqrt"]
  | .factorialWord _ _ _ => ["корень", "sqrt", "!"]
  | .percentSign _ _ _ _ _ _ => ["корень", "sqrt", "факториал", "!"]
  | .percentWord _ _ _ _ _ _ _ => ["корень", "sqrt", "факториал", "!"]
  | .power _ _ _ _ _ => ["корень", "sqrt", "факториал", "!", "процент", "%"]

theorem not_isInfix_factorialWord (ending : Ending) (gap : SomeGap) (number : WholeNumber) :
    ¬"корень".toList <:+: text (.factorialWord ending gap number) := by
  have inStem : ¬"корень".toList <:+: "факториал".toList := by decide
  have inEnding := ending.unnamed "корень" (by decide)
  have overlaps : ∀ count < "корень".toList.length,
      ¬"корень".toList.take (count + 1) <:+ "факториал".toList := by
    decide
  intro inside
  have split : text (.factorialWord ending gap number) =
      "факториал".toList ++ ending.text ++ (gap.text ++ number.digits) :=
    List.append_assoc _ _ _
  rw [split] at inside
  rcases isInfix_beside_gap gap (by decide) inside with word | ⟨more, isEnd, behind⟩
  · exact not_isInfix_append inStem inEnding overlaps word
  · have absent : 'к' ∉ more ++ number.digits :=
      List.not_mem_append (fun member => not_mem_gap (by decide) gap.toGap (isEnd.subset member))
        (not_mem_digits (by decide) number)
    exact not_isInfix_of_not_mem (by decide) absent behind

theorem not_isInfix_percentWord {word : String} (isWord : word ∈ ["корень", "факториал"])
    (percent : Numeral) (gap : Gap) (ending : Ending) (before : SomeGap)
    (preposition : Option Preposition) (behind : Gap) (base : Numeral) :
    ¬word.toList <:+:
      text (.percentWord percent gap ending before preposition behind base) := by
  have table : ∀ word ∈ ["корень", "факториал"], word ∈ namingStems ∧ word.toList ≠ [] ∧
      ¬word.toList <:+: "процент".toList ∧
      (∀ count < word.toList.length, ¬word.toList.take (count + 1) <:+ "процент".toList) ∧
      (∀ char ∈ word.toList,
        Arithmetic.isNumeralCharacter char = false ∧ isBlank char = false) ∧
      ∃ char ∈ word.toList, char ∉ "отиз".toList := by
    decide
  obtain ⟨naming, nonempty, inStem, overlaps, visible, char, member, noPreposition⟩ :=
    table word isWord
  obtain ⟨noNumeral, noBlank⟩ := visible char member
  have outside : ∀ char ∈ percent.text ++ gap.text, char ∉ word.toList := by
    rw [List.forall_mem_append]
    exact ⟨fun char inside isPart => not_mem_numeral (visible char isPart).1 percent inside,
      fun char inside isPart => not_mem_gap (visible char isPart).2 gap inside⟩
  -- In front of the stem there are no letters, and behind the white space that ends the word only
  -- those of a preposition: the other word would have to be in the stem with its ending.
  intro inside
  have split : text (.percentWord percent gap ending before preposition behind base) =
      percent.text ++ gap.text ++ ("процент".toList ++ ending.text ++
        (before.text ++ (Preposition.text preposition ++ (behind.text ++ base.text)))) :=
    (congrArg (percent.text ++ ·) (append_link _ _ _ _ _ _)).trans
      (List.append_assoc _ _ _).symm
  rw [split] at inside
  rcases isInfix_beside_gap before (fun char isPart => (visible char isPart).2)
      (isInfix_behind nonempty outside inside) with inWord | ⟨more, isEnd, inRest⟩
  · exact not_isInfix_append inStem (ending.unnamed word naming) overlaps inWord
  · have rest := List.not_mem_append
      (fun inside => noPreposition (preposition_subset preposition inside))
      (List.not_mem_append (not_mem_gap noBlank behind) (not_mem_numeral noNumeral base))
    have absent := List.not_mem_append
      (fun inside => not_mem_gap noBlank before.toGap (isEnd.subset inside)) rest
    exact not_isInfix_of_not_mem member absent inRest

theorem not_isInfix_text (wording : Wording) {word : String} (isEarlier : word ∈ wording.earlier) :
    ¬word.toList <:+: wording.text := by
  have signs : ∀ word ∈ ["sqrt", "!"], ∃ char ∈ word.toList,
      Arithmetic.isNumeralCharacter char = false ∧ isBlank char = false ∧
        char ∉ "факториал".toList ∧ char ∉ "процентотиз".toList ∧ ¬IsSmallLetter char := by
    decide
  cases wording with
  | root gap preposition radicand => cases isEarlier
  | factorialSign number gap =>
      have table : ∀ word ∈ ["корень", "sqrt"], ∃ char ∈ word.toList,
          Arithmetic.isNumeralCharacter char = false ∧ isBlank char = false ∧
            char ∉ "!".toList ∧ char ∉ [] := by
        decide
      exact not_isInfix_of_apart _ (table word isEarlier)
  | factorialWord ending gap number =>
      rcases List.mem_cons.mp isEarlier with rfl | isSign
      · exact not_isInfix_factorialWord ending gap number
      · obtain ⟨char, member, noNumeral, noBlank, noLetter, _, noSmall⟩ := signs word isSign
        exact not_isInfix_of_apart _
          ⟨char, member, noNumeral, noBlank, noLetter, not_mem_ending noSmall _⟩
  | percentSign percent gap before preposition behind base =>
      have table : ∀ word ∈ ["корень", "sqrt", "факториал", "!"], ∃ char ∈ word.toList,
          Arithmetic.isNumeralCharacter char = false ∧ isBlank char = false ∧
            char ∉ "%отиз".toList ∧ char ∉ [] := by
        decide
      exact not_isInfix_of_apart _ (table word isEarlier)
  | percentWord percent gap ending before preposition behind base =>
      have kinds : ∀ word ∈ ["корень", "sqrt", "факториал", "!"],
          word ∈ ["корень", "факториал"] ∨ word ∈ ["sqrt", "!"] := by
        decide
      rcases kinds word isEarlier with isWord | isSign
      · exact not_isInfix_percentWord isWord percent gap ending before preposition behind base
      · obtain ⟨char, member, noNumeral, noBlank, _, noLetter, noSmall⟩ := signs word isSign
        exact not_isInfix_of_apart _
          ⟨char, member, noNumeral, noBlank, noLetter, not_mem_ending noSmall _⟩
  | power base gap between behind exponent =>
      have table : ∀ word ∈ ["корень", "sqrt", "факториал", "!", "процент", "%"],
          ∃ char ∈ word.toList, Arithmetic.isNumeralCharacter char = false ∧
            isBlank char = false ∧ char ∉ "встепени".toList ∧ char ∉ [] := by
        decide
      exact not_isInfix_of_apart _ (table word isEarlier)

end Wording

end ChatAssistant.Calculator
