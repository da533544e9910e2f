import ChatAssistant.Proofs.Text.Cyrillic

/-!
What the case of letters does not touch: characters without case stand in a text in lower case where
they stood before, and a small Cyrillic letter is met in either case there.
-/

namespace ChatAssistant.Text

/-- A character without case is its own lower case, and that of no other character. -/
structure IsCaseless (char : Char) : Prop where
  kept : toLower char = char
  only : ∀ other, toLower other = char → other = char
  plain : char ≠ 'Σ' ∧ char ≠ 'İ'
  simple : IsSimple char

/-- The characters to which a rule of their own applies, and those it gives. -/
def specialCharacters : List Char :=
  ['Σ', 'İ', 'i', '\u0307', 'σ', 'ς']

theorem isCaseless_of_has {ranges : CodePoints} (positive : ∀ range ∈ ranges, 0 < range.1)
    (avoids : ∀ shift ∈ lowercaseMapping, shift.avoids ranges = true)
    (misses : ∀ shift ∈ lowercaseMapping, shift.misses ranges = true)
    (special : ∀ char ∈ specialCharacters, ranges.has char = false) {char : Char}
    (has : ranges.has char = true) : IsCaseless char := by
  have ordinary : char ∉ specialCharacters := by
    intro member
    rw [special char member] at has
    cases has
  rw [specialCharacters, List.mem_cons, List.mem_cons, not_or, not_or] at ordinary
  refine ⟨shiftCodePoint_of_avoids avoids has, ?_, ⟨ordinary.1, ordinary.2.1⟩, ordinary.2.2⟩
  intro other lowered
  rw [← lowered] at has
  exact (shiftCodePoint_eq_self misses positive has).symm.trans lowered

theorem isCaseless_of_digit {char : Char} (digit : isDecimalDigit char = true) :
    IsCaseless char :=
  isCaseless_of_has (by decide) (by decide +kernel) (by decide +kernel) (by decide) digit

theorem isCaseless_of_blank {char : Char} (blank : isBlank char = true) : IsCaseless char :=
  isCaseless_of_has (by decide) (by decide +kernel) (by decide +kernel) (by decide) blank

def signCodePoints : CodePoints :=
  [(0x25, 0x25), (0x28, 0x2F), (0x3D, 0x3D), (0x5E, 0x5E), (0xD7, 0xD7), (0xF7, 0xF7)]

theorem isCaseless_of_sign {char : Char} (sign : signCodePoints.has char = true) :
    IsCaseless char :=
  isCaseless_of_has (by decide) (by decide +kernel) (by decide +kernel) (by decide) sign

def cyrillicForms : CodePoints :=
  [(0x0410, 0x044F), (0x1C80, 0x1C86)]

theorem has_cyrillicForms {char : Char} (small : smallCyrillic.has (foldCase char) = true) :
    cyrillicForms.has char = true := by
  have table : ∀ shift ∈ caseFoldingMapping, shift.misses smallCyrillic = true ∨
      ∃ range ∈ cyrillicForms, range.1 ≤ shift.first ∧ shift.last ≤ range.2 := by
    decide +kernel
  have ascending : cyrillicForms.Pairwise (·.1 ≤ ·.1) := by decide
  unfold foldCase at small
  rcases shiftCodePoint_cases caseFoldingMapping char with
    same | ⟨shift, member, above, below, image⟩
  · rw [same] at small
    exact CodePoints.has_of_within ascending (by decide) small
  · rcases table shift member with misses | ⟨range, among, first, last⟩
    · rw [image, CodePointShift.has_image misses (by decide) below] at small
      cases small
    · exact CodePoints.covers_of_mem ascending among (Nat.le_trans first above)
        (Nat.le_trans below last)

/-- The only letters of these forms that change in lower case are the capital ones. -/
theorem foldCase_toLower_of_folded {char : Char}
    (small : smallCyrillic.has (foldCase char) = true ∨
      smallCyrillic.has (foldCase (toLower char)) = true) :
    foldCase (toLower char) = foldCase char := by
  have table : ∀ shift ∈ lowercaseMapping,
      shift.avoids cyrillicForms = true ∧ shift.misses cyrillicForms = true ∨
        shift.lowersCyrillic = true := by
    decide +kernel
  have forms : cyrillicForms.has char = true ∨ cyrillicForms.has (toLower char) = true :=
    small.imp has_cyrillicForms has_cyrillicForms
  unfold toLower at forms ⊢
  rcases shiftCodePoint_cases lowercaseMapping char with
    same | ⟨shift, member, above, below, image⟩
  · rw [same]
  · rw [image] at forms ⊢
    rcases table shift member with ⟨avoids, misses⟩ | lowers
    · rcases forms with form | form
      · rw [CodePointShift.has_of_avoids avoids above below] at form
        cases form
      · rw [CodePointShift.has_image misses (by decide) below] at form
        cases form
    · exact foldCase_of_lowersCyrillic lowers above below

theorem foldCase_special :
    ∀ char ∈ specialCharacters, smallCyrillic.has (foldCase char) = false := by
  decide

def IsCyrillicWord (word : List Char) : Prop :=
  ∀ letter ∈ word, smallCyrillic.has (foldCase letter) = true

instance (word : List Char) : Decidable (IsCyrillicWord word) :=
  inferInstanceAs (Decidable (∀ letter ∈ word, _))

variable {word letters : List Char}

theorem isCyrillicWord_of_spelt (cyrillic : IsCyrillicWord word)
    (spelt : letters.map foldCase = word.map foldCase) : IsCyrillicWord letters := by
  intro letter member
  have folded : foldCase letter ∈ word.map foldCase := spelt ▸ List.mem_map_of_mem member
  obtain ⟨other, among, same⟩ := List.mem_map.mp folded
  rw [← same]
  exact cyrillic other among

theorem IsCyrillicWord.ordinary (cyrillic : IsCyrillicWord letters) :
    ∀ letter ∈ letters, letter ∉ specialCharacters := by
  intro letter member special
  have small := cyrillic letter member
  rw [foldCase_special letter special] at small
  cases small

theorem map_foldCase_toLower (cyrillic : IsCyrillicWord letters) :
    (letters.map toLower).map foldCase = letters.map foldCase := by
  rw [List.map_map]
  apply List.map_congr_left
  intro letter member
  exact foldCase_toLower_of_folded (Or.inl (cyrillic letter member))

theorem map_foldCase_of_toLower (cyrillic : IsCyrillicWord (letters.map toLower)) :
    (letters.map toLower).map foldCase = letters.map foldCase := by
  rw [List.map_map]
  apply List.map_congr_left
  intro letter member
  exact foldCase_toLower_of_folded (Or.inr (cyrillic _ (List.mem_map_of_mem member)))

theorem exists_lowercaseAfter_append (front before rest : List Char) :
    ∃ lowered, lowercaseAfter before (front ++ rest) =
      lowered ++ lowercaseAfter (front.reverse ++ before) rest := by
  induction front generalizing before with
  | nil => exact ⟨[], rfl⟩
  | cons char front ih =>
      obtain ⟨lowered, split⟩ := ih (char :: before)
      rw [List.cons_append, lowercaseAfter, split, ← List.append_assoc, List.reverse_cons,
        List.append_assoc front.reverse]
      exact ⟨_, rfl⟩

theorem isInfix_map_toLower {part text : List Char}
    (plain : ∀ char ∈ part, char ≠ 'Σ' ∧ char ≠ 'İ') (inside : part <:+: text) :
    part.map toLower <:+: lowercase text := by
  obtain ⟨front, back, rfl⟩ := inside
  obtain ⟨lowered, split⟩ := exists_lowercaseAfter_append front [] (part ++ back)
  rw [lowercaseAfter_append_of_plain plain] at split
  rw [lowercase, List.append_assoc front, split, ← List.append_assoc]
  exact List.infix_append lowered _ _

theorem map_toLower_of_caseless {part : List Char} (caseless : ∀ char ∈ part, IsCaseless char) :
    part.map toLower = part := by
  rw [List.map_congr_left (fun char member => (caseless char member).kept), List.map_id']

theorem eq_of_map_toLower {origin part : List Char} (caseless : ∀ char ∈ part, IsCaseless char)
    (lowered : origin.map toLower = part) : origin = part := by
  subst lowered
  have kept : ∀ char ∈ origin, char = toLower char := by
    intro char member
    exact (caseless _ (List.mem_map_of_mem member)).only char rfl
  rw [List.map_congr_left (fun char member => (kept char member).symm), List.map_id']

/-- Behind characters without case, a Cyrillic word stands in the text in lower case exactly if it
stood there in the text itself, in letters of either case. -/
theorem exists_isInfix_lowercase_iff {front : List Char} (text : List Char)
    (caseless : ∀ char ∈ front, IsCaseless char) (cyrillic : IsCyrillicWord word) :
    (∃ letters, front ++ letters <:+: lowercase text ∧
      letters.map foldCase = word.map foldCase) ↔
    ∃ letters, front ++ letters <:+: text ∧ letters.map foldCase = word.map foldCase := by
  constructor
  · rintro ⟨letters, inside, spelt⟩
    have small := isCyrillicWord_of_spelt cyrillic spelt
    have simple : ∀ char ∈ front ++ letters, IsSimple char := by
      rw [List.forall_mem_append]
      refine ⟨fun char member => (caseless char member).simple, ?_⟩
      intro letter member special
      have among : letter ∈ specialCharacters :=
        List.mem_cons_of_mem _ (List.mem_cons_of_mem _ special)
      exact small.ordinary letter member among
    obtain ⟨origin, contained, image⟩ := exists_infix_of_lowercase simple inside
    obtain ⟨front', letters', rfl, lowered, rfl⟩ := List.map_eq_append_iff.mp image
    rw [eq_of_map_toLower caseless lowered] at contained
    exact ⟨letters', contained, (map_foldCase_of_toLower small).symm.trans spelt⟩
  · rintro ⟨letters, inside, spelt⟩
    have small := isCyrillicWord_of_spelt cyrillic spelt
    have plain : ∀ char ∈ front ++ letters, char ≠ 'Σ' ∧ char ≠ 'İ' := by
      rw [List.forall_mem_append]
      refine ⟨fun char member => (caseless char member).plain, ?_⟩
      intro letter member
      have ordinary := small.ordinary letter member
      rw [specialCharacters, List.mem_cons, List.mem_cons, not_or, not_or] at ordinary
      exact ⟨ordinary.1, ordinary.2.1⟩
    refine ⟨letters.map toLower, ?_, (map_foldCase_toLower small).trans spelt⟩
    have lowered := isInfix_map_toLower plain inside
    rw [List.map_append, map_toLower_of_caseless caseless] at lowered
    exact lowered

theorem isInfix_lowercase_iff {part : List Char} (text : List Char)
    (caseless : ∀ char ∈ part, IsCaseless char) : part <:+: lowercase text ↔ part <:+: text := by
  have empty : IsCyrillicWord [] := List.forall_mem_nil _
  have behind := exists_isInfix_lowercase_iff text caseless empty
  simp only [List.map_nil, List.map_eq_nil_iff, exists_eq_right, List.append_nil] at behind
  exact behind

theorem length_le_length_lowercaseAfter (before text : List Char) :
    text.length ≤ (lowercaseAfter before text).length := by
  induction text generalizing before with
  | nil => exact Nat.le_refl 0
  | cons char text ih =>
      have later := ih (char :: before)
      rw [lowercaseAfter, List.length_append, List.length_cons]
      have lowered : 1 ≤ (if char = 'Σ' then [lowercaseSigma before text]
          else if char = 'İ' then ['i', '\u0307']
          else [shiftCodePoint lowercaseMapping char]).length := by
        split
        · exact Nat.le_refl 1
        · split
          · exact Nat.le_succ 1
          · exact Nat.le_refl 1
      omega

theorem lowercase_eq_self_of_caseless {text : List Char}
    (caseless : ∀ char ∈ lowercase text, IsCaseless char) : lowercase text = text := by
  have whole := (isInfix_lowercase_iff text caseless).mp List.infix_rfl
  exact whole.eq_of_length_le (length_le_length_lowercaseAfter [] text)

theorem lowercase_of_caseless {text : List Char} (caseless : ∀ char ∈ text, IsCaseless char) :
    lowercase text = text := by
  rw [lowercase_eq_map (fun char member => (caseless char member).plain),
    map_toLower_of_caseless caseless]

end ChatAssistant.Text
