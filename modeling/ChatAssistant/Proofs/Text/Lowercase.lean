import ChatAssistant.Text.Blank
import ChatAssistant.Text.CaseFolding
import ChatAssistant.Text.DecimalDigit
import ChatAssistant.Text.Lowercase
import Mathlib.Data.List.Infix

/-!
What a text was before it was put in lower case. Digits and white space have been there all the
time, and small Cyrillic letters were the same letters in either case.
-/

namespace ChatAssistant.Text

theorem CodePoints.exists_of_covers {ranges : CodePoints} {code : Nat}
    (covered : ranges.covers code = true) :
    ∃ range ∈ ranges, range.1 ≤ code ∧ code ≤ range.2 := by
  induction ranges with
  | nil => cases covered
  | cons range ranges ih =>
      obtain ⟨first, last⟩ := range
      rw [covers] at covered
      split at covered
      · cases covered
      · rename_i reached
        rw [Bool.or_eq_true, decide_eq_true_iff] at covered
        rcases covered with inside | beyond
        · exact ⟨(first, last), List.mem_cons_self, Nat.le_of_not_lt reached, inside⟩
        · obtain ⟨range, member, inside⟩ := ih beyond
          exact ⟨range, List.mem_cons_of_mem _ member, inside⟩

theorem shiftCodePoint_cases (shifts : List CodePointShift) (char : Char) :
    shiftCodePoint shifts char = char ∨
      ∃ shift ∈ shifts, shift.first ≤ char.toNat ∧ char.toNat ≤ shift.last ∧
        shiftCodePoint shifts char =
          Char.ofNat (shift.image + (char.toNat - shift.first)) := by
  unfold shiftCodePoint
  split
  · rename_i code found
    obtain ⟨shift, member, image⟩ := List.exists_of_findSome?_eq_some found
    unfold CodePointShift.image? at image
    split at image
    · rename_i inside
      cases image
      exact Or.inr ⟨shift, member, inside.1, inside.2.1, rfl⟩
    · cases image
  · exact Or.inl rfl

theorem toNat_ofNat (code : Nat) :
    (Char.ofNat code).toNat = if code.isValidChar then code else 0 := by
  by_cases valid : code.isValidChar
  · rw [Char.ofNat, dif_pos valid, if_pos valid]
    rfl
  · rw [Char.ofNat, dif_neg valid, if_neg valid]
    rfl

def CodePointShift.misses (shift : CodePointShift) (ranges : CodePoints) : Bool :=
  ranges.all fun range =>
    shift.image + (shift.last - shift.first) < range.1 || range.2 < shift.image

theorem CodePointShift.has_image {shift : CodePointShift} {ranges : CodePoints} {code : Nat}
    (misses : shift.misses ranges = true) (positive : ∀ range ∈ ranges, 0 < range.1)
    (inside : code ≤ shift.last) :
    ranges.has (Char.ofNat (shift.image + (code - shift.first))) = false := by
  rw [← Bool.not_eq_true]
  intro covered
  obtain ⟨range, member, above, below⟩ := CodePoints.exists_of_covers covered
  have apart := List.all_eq_true.mp misses range member
  rw [Bool.or_eq_true, decide_eq_true_iff, decide_eq_true_iff] at apart
  rw [toNat_ofNat] at above below
  have nonzero := positive range member
  split at above
  · rename_i valid
    rw [if_pos valid] at below
    omega
  · omega

/-- Characters of ranges that nothing is shifted to have not been shifted. -/
theorem shiftCodePoint_eq_self {shifts : List CodePointShift} {ranges : CodePoints}
    (misses : ∀ shift ∈ shifts, shift.misses ranges = true)
    (positive : ∀ range ∈ ranges, 0 < range.1) {char : Char}
    (has : ranges.has (shiftCodePoint shifts char) = true) : shiftCodePoint shifts char = char := by
  rcases shiftCodePoint_cases shifts char with same | ⟨shift, member, _, inside, image⟩
  · exact same
  · rw [image, CodePointShift.has_image (misses shift member) positive inside] at has
    cases has

def toLower (char : Char) : Char :=
  shiftCodePoint lowercaseMapping char

theorem toLower_eq_self_of_digit {char : Char} (digit : isDecimalDigit (toLower char) = true) :
    toLower char = char :=
  shiftCodePoint_eq_self (by decide +kernel) (by decide) digit

theorem toLower_eq_self_of_blank {char : Char} (blank : isBlank (toLower char) = true) :
    toLower char = char :=
  shiftCodePoint_eq_self (by decide +kernel) (by decide) blank

def smallCyrillic : CodePoints :=
  [(0x0430, 0x044F)]

theorem foldCase_small {place : Nat} (inside : place < 32) :
    foldCase (Char.ofNat (0x0430 + place)) = foldCase (Char.ofNat (0x0410 + place)) := by
  have alphabet : ∀ place < 32,
      foldCase (Char.ofNat (0x0430 + place)) = foldCase (Char.ofNat (0x0410 + place)) := by
    decide
  exact alphabet place inside

def CodePointShift.lowersCyrillic (shift : CodePointShift) : Bool :=
  shift.first = 0x0410 && shift.last = 0x042F && shift.image = 0x0430

theorem foldCase_of_lowersCyrillic {shift : CodePointShift} (lowers : shift.lowersCyrillic = true)
    {char : Char} (above : shift.first ≤ char.toNat) (below : char.toNat ≤ shift.last) :
    foldCase (Char.ofNat (shift.image + (char.toNat - shift.first))) = foldCase char := by
  rw [CodePointShift.lowersCyrillic, Bool.and_eq_true, Bool.and_eq_true, decide_eq_true_iff,
    decide_eq_true_iff, decide_eq_true_iff] at lowers
  obtain ⟨⟨first, last⟩, start⟩ := lowers
  rw [first] at above
  rw [start, first, foldCase_small (by omega), Nat.add_sub_cancel' above, Char.ofNat_toNat]

theorem foldCase_toLower {char : Char} (small : smallCyrillic.has (toLower char) = true) :
    foldCase (toLower char) = foldCase char := by
  have table : ∀ shift ∈ lowercaseMapping, shift.misses smallCyrillic = true ∨
      shift.lowersCyrillic = true := by
    decide +kernel
  unfold toLower at small ⊢
  rcases shiftCodePoint_cases lowercaseMapping char with
    same | ⟨shift, member, above, below, image⟩
  · rw [same]
  · rcases table shift member with misses | lowers
    · rw [image, CodePointShift.has_image misses (by decide) below] at small
      cases small
    · rw [image, foldCase_of_lowersCyrillic lowers above below]

/-- The characters of lower case that stand for one character each, whatever is beside it. -/
def IsSimple (char : Char) : Prop :=
  char ∉ ['i', '\u0307', 'σ', 'ς']

instance (char : Char) : Decidable (IsSimple char) :=
  inferInstanceAs (Decidable (¬_))

theorem exists_prefix_of_lowercaseAfter {found before text : List Char}
    (simple : ∀ char ∈ found, IsSimple char) (start : found <+: lowercaseAfter before text) :
    ∃ origin, origin <+: text ∧ origin.map toLower = found := by
  induction text generalizing found before with
  | nil =>
      rw [lowercaseAfter, List.prefix_nil] at start
      exact ⟨[], List.nil_prefix, start.symm⟩
  | cons char after ih =>
      cases found with
      | nil => exact ⟨[], List.nil_prefix, rfl⟩
      | cons first found =>
          rw [lowercaseAfter] at start
          have firstSimple := simple first List.mem_cons_self
          split at start
          · rw [List.singleton_append, List.cons_prefix_cons] at start
            rw [start.1, lowercaseSigma] at firstSimple
            exact absurd firstSimple (by split <;> decide)
          · split at start
            · rw [List.cons_append, List.cons_prefix_cons] at start
              rw [start.1] at firstSimple
              exact absurd firstSimple (by decide)
            · rw [List.singleton_append, List.cons_prefix_cons] at start
              obtain ⟨origin, begin, image⟩ :=
                ih (fun char member => simple char (List.mem_cons_of_mem _ member)) start.2
              refine ⟨char :: origin, (List.prefix_cons_inj char).mpr begin, ?_⟩
              rw [List.map_cons, image, start.1]
              rfl

theorem exists_infix_of_lowercaseAfter {found before text : List Char}
    (simple : ∀ char ∈ found, IsSimple char) (inside : found <:+: lowercaseAfter before text) :
    ∃ origin, origin <:+: text ∧ origin.map toLower = found := by
  induction text generalizing before with
  | nil =>
      rw [lowercaseAfter, List.infix_nil] at inside
      exact ⟨[], List.nil_infix, inside.symm⟩
  | cons char after ih =>
      have later : found <:+: lowercaseAfter (char :: before) after →
          ∃ origin, origin <:+: char :: after ∧ origin.map toLower = found := by
        intro inside
        obtain ⟨origin, inside, image⟩ := ih inside
        exact ⟨origin, List.infix_cons inside, image⟩
      have start : found <+: lowercaseAfter before (char :: after) →
          ∃ origin, origin <:+: char :: after ∧ origin.map toLower = found := by
        intro start
        obtain ⟨origin, begin, image⟩ := exists_prefix_of_lowercaseAfter simple start
        exact ⟨origin, begin.isInfix, image⟩
      rw [lowercaseAfter] at inside start
      split at inside
      · rename_i sigma
        rw [if_pos sigma] at start
        exact (List.infix_cons_iff.mp inside).elim start later
      · rename_i notSigma
        rw [if_neg notSigma] at start
        split at inside
        · rename_i dotted
          rw [if_pos dotted] at start
          rcases List.infix_cons_iff.mp inside with first | inside
          · exact start first
          · rcases List.infix_cons_iff.mp inside with dot | inside
            · -- No part that is simple begins with the dot above, but it may be empty.
              cases found with
              | nil => exact ⟨[], List.nil_infix, rfl⟩
              | cons first found =>
                  rw [List.cons_prefix_cons] at dot
                  have firstSimple := simple first List.mem_cons_self
                  rw [dot.1] at firstSimple
                  exact absurd firstSimple (by decide)
            · exact later inside
        · rename_i notDotted
          rw [if_neg notDotted] at start
          exact (List.infix_cons_iff.mp inside).elim start later

/-- A part of a text in lower case comes from a part of the text, character for character. -/
theorem exists_infix_of_lowercase {found text : List Char}
    (simple : ∀ char ∈ found, IsSimple char) (inside : found <:+: lowercase text) :
    ∃ origin, origin <:+: text ∧ origin.map toLower = found :=
  exists_infix_of_lowercaseAfter simple inside

/-- Where neither a sigma nor a dotted I stands, each character is lowered by itself. -/
theorem lowercaseAfter_append_of_plain {part : List Char}
    (plain : ∀ char ∈ part, char ≠ 'Σ' ∧ char ≠ 'İ') (before rest : List Char) :
    lowercaseAfter before (part ++ rest) =
      part.map toLower ++ lowercaseAfter (part.reverse ++ before) rest := by
  induction part generalizing before with
  | nil => rfl
  | cons char part ih =>
      obtain ⟨notSigma, notDotted⟩ := plain char List.mem_cons_self
      have later := ih (fun char member => plain char (List.mem_cons_of_mem _ member))
        (char :: before)
      rw [List.cons_append, lowercaseAfter, if_neg notSigma, if_neg notDotted, later,
        List.reverse_cons, List.append_assoc]
      rfl

theorem lowercase_eq_map {text : List Char} (plain : ∀ char ∈ text, char ≠ 'Σ' ∧ char ≠ 'İ') :
    lowercase text = text.map toLower := by
  have whole := lowercaseAfter_append_of_plain plain [] []
  rw [List.append_nil, lowercaseAfter, List.append_nil] at whole
  exact whole

theorem trim_isInfix (text : List Char) : trim text <:+: text := by
  have front : ((text.dropWhile isBlank).reverse.dropWhile isBlank).reverse <+:
      text.dropWhile isBlank := by
    rw [← List.reverse_suffix, List.reverse_reverse]
    exact List.dropWhile_suffix isBlank
  exact front.isInfix.trans (List.dropWhile_suffix isBlank).isInfix

end ChatAssistant.Text
