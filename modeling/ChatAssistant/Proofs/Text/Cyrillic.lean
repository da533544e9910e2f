import ChatAssistant.Proofs.Text.Lowercase
import ChatAssistant.Text.WordCharacter

/-!
Cyrillic letters: they are letters of words, in lower case they are still beyond all characters of
ASCII, and only one of them becomes the letter that looks like a multiplication sign.
-/

namespace ChatAssistant.Text

/-! A statement about the characters of a text is decided for these characters only, and not for
all that there are. -/

section Tables

variable (P : Char → Prop) [DecidablePred P]

instance decidableForallMem (text : List Char) : Decidable (∀ char ∈ text, P char) :=
  List.decidableBAll P text

instance decidableExistsMem (text : List Char) : Decidable (∃ char ∈ text, P char) :=
  List.decidableBEx P text

instance decidableForallMemOption : (char? : Option Char) → Decidable (∀ char ∈ char?, P char)
  | none => .isTrue fun _ member => nomatch member
  | some char => decidable_of_iff (P char) (by simp only [Option.mem_some_iff, forall_eq'])

end Tables

namespace CodePoints

variable {ranges others : CodePoints} {char : Char}

theorem covers_of_mem (ascending : ranges.Pairwise (·.1 ≤ ·.1)) {range : Nat × Nat}
    (member : range ∈ ranges) {code : Nat} (above : range.1 ≤ code) (below : code ≤ range.2) :
    ranges.covers code = true := by
  induction ranges with
  | nil => cases member
  | cons head ranges ih =>
      rw [List.pairwise_cons] at ascending
      have reached : ¬code < head.1 := by
        rw [Nat.not_lt]
        rcases List.mem_cons.mp member with rfl | inside
        · exact above
        · exact Nat.le_trans (ascending.1 range inside) above
      rw [covers, if_neg reached, Bool.or_eq_true, decide_eq_true_iff]
      rcases List.mem_cons.mp member with rfl | inside
      · exact .inl below
      · exact .inr (ih ascending.2 inside)

def within (ranges others : CodePoints) : Bool :=
  ranges.all fun range => others.any fun other => other.1 ≤ range.1 && range.2 ≤ other.2

def disjoint (ranges others : CodePoints) : Bool :=
  ranges.all fun range => others.all fun other => range.2 < other.1 || other.2 < range.1

theorem has_of_within (ascending : others.Pairwise (·.1 ≤ ·.1))
    (within : ranges.within others = true) (has : ranges.has char = true) :
    others.has char = true := by
  obtain ⟨range, member, above, below⟩ := exists_of_covers has
  obtain ⟨other, inside, contains⟩ := List.any_eq_true.mp (List.all_eq_true.mp within range member)
  rw [Bool.and_eq_true, decide_eq_true_iff, decide_eq_true_iff] at contains
  exact covers_of_mem ascending inside (Nat.le_trans contains.1 above)
    (Nat.le_trans below contains.2)

theorem has_of_disjoint (disjoint : ranges.disjoint others = true)
    (has : ranges.has char = true) : others.has char = false := by
  rw [← Bool.not_eq_true]
  intro covered
  obtain ⟨range, member, above, below⟩ := exists_of_covers has
  obtain ⟨other, inside, above', below'⟩ := exists_of_covers covered
  have apart := List.all_eq_true.mp (List.all_eq_true.mp disjoint range member) other inside
  rw [Bool.or_eq_true, decide_eq_true_iff, decide_eq_true_iff] at apart
  omega

end CodePoints

/-- The code points of the letters of the script Cyrillic. -/
def cyrillicLetters : CodePoints :=
  [ (0x0400, 0x0481), (0x048A, 0x052F), (0x1C80, 0x1C8A), (0x1D2B, 0x1D2B), (0x1D78, 0x1D78),
    (0xA640, 0xA66E), (0xA67F, 0xA69D), (0x1E030, 0x1E06D)]

def isCyrillicLetter (char : Char) : Bool :=
  cyrillicLetters.has char

def CodePointShift.avoids (shift : CodePointShift) (ranges : CodePoints) : Bool :=
  ranges.all fun range => shift.last < range.1 || range.2 < shift.first

theorem CodePointShift.has_of_avoids {shift : CodePointShift} {ranges : CodePoints}
    (avoids : shift.avoids ranges = true) {char : Char} (above : shift.first ≤ char.toNat)
    (below : char.toNat ≤ shift.last) : ranges.has char = false := by
  rw [← Bool.not_eq_true]
  intro covered
  obtain ⟨range, member, first, last⟩ := CodePoints.exists_of_covers covered
  have apart := List.all_eq_true.mp avoids range member
  rw [Bool.or_eq_true, decide_eq_true_iff, decide_eq_true_iff] at apart
  omega

theorem shiftCodePoint_of_avoids {shifts : List CodePointShift} {ranges : CodePoints}
    (avoids : ∀ shift ∈ shifts, shift.avoids ranges = true) {char : Char}
    (has : ranges.has char = true) : shiftCodePoint shifts char = char := by
  rcases shiftCodePoint_cases shifts char with same | ⟨shift, inside, above, below, _⟩
  · exact same
  · rw [CodePointShift.has_of_avoids (avoids shift inside) above below] at has
    cases has

def CodePointShift.staysBeyond (shift : CodePointShift) (bound : Nat) : Bool :=
  bound ≤ shift.image && shift.image + (shift.last - shift.first) < 0xD800

/-- Below the bound there is no letter of these ranges, in lower case either. -/
theorem le_shiftCodePoint {shifts : List CodePointShift} {ranges : CodePoints} {bound : Nat}
    (beyond : ∀ range ∈ ranges, bound ≤ range.1)
    (keeps : ∀ shift ∈ shifts, shift.avoids ranges = true ∨ shift.staysBeyond bound = true)
    {char : Char} (has : ranges.has char = true) :
    bound ≤ (shiftCodePoint shifts char).toNat := by
  obtain ⟨range, member, above, below⟩ := CodePoints.exists_of_covers has
  rcases shiftCodePoint_cases shifts char with same | ⟨shift, inside, first, last, image⟩
  · rw [same]
    exact Nat.le_trans (beyond range member) above
  · rcases keeps shift inside with avoids | stays
    · have apart := List.all_eq_true.mp avoids range member
      rw [Bool.or_eq_true, decide_eq_true_iff, decide_eq_true_iff] at apart
      omega
    · rw [CodePointShift.staysBeyond, Bool.and_eq_true, decide_eq_true_iff, decide_eq_true_iff]
        at stays
      have valid : (shift.image + (char.toNat - shift.first)).isValidChar :=
        .inl (by omega)
      rw [image, toNat_ofNat, if_pos valid]
      omega

theorem le_toLower_of_cyrillic {char : Char} (letter : isCyrillicLetter char = true) :
    0x400 ≤ (toLower char).toNat := by
  have beyond : ∀ range ∈ cyrillicLetters, 0x400 ≤ range.1 := by decide
  exact le_shiftCodePoint beyond (by decide +kernel) letter

/-- The letter that looks like a multiplication sign has a capital form and no other. -/
theorem toLower_eq_times_iff (char : Char) :
    toLower char = 'х' ↔ char = 'х' ∨ char = 'Х' := by
  have table : ∀ shift ∈ lowercaseMapping, shift.misses [(0x0445, 0x0445)] = true ∨
      shift.first = 0x0410 ∧ shift.image = 0x0430 := by
    decide +kernel
  constructor
  · intro isTimes
    have inside : CodePoints.has [(0x0445, 0x0445)] (toLower char) = true := by
      rw [isTimes]
      decide
    unfold toLower at isTimes inside
    rcases shiftCodePoint_cases lowercaseMapping char with
      same | ⟨shift, member, above, below, image⟩
    · exact .inl (same.symm.trans isTimes)
    · rcases table shift member with misses | ⟨first, start⟩
      · rw [image, CodePointShift.has_image misses (by decide) below] at inside
        cases inside
      · have code : 0x0430 + (char.toNat - 0x0410) = 0x0445 := by
          have number := congrArg Char.toNat (image.symm.trans isTimes)
          rw [first, start, toNat_ofNat] at number
          split at number
          · exact number
          · cases number
        have isCapital : char.toNat = 'Х'.toNat := by
          rw [first] at above
          show char.toNat = 0x0425
          omega
        exact .inr (Char.toNat_inj.mp isCapital)
  · rintro (rfl | rfl)
    · decide
    · decide

theorem toLower_of_blank {char : Char} (blank : isBlank char = true) : toLower char = char :=
  shiftCodePoint_of_avoids (by decide +kernel) blank

theorem isWordCharacter_of_cyrillic {char : Char} (letter : isCyrillicLetter char = true) :
    isWordCharacter char = true := by
  have transitive : IsTrans (Nat × Nat) (fun left right => left.1 ≤ right.1) :=
    ⟨fun _ _ _ => Nat.le_trans⟩
  have chain : wordCodePoints.IsChain (fun left right => left.1 ≤ right.1) := by
    decide +kernel
  have within : cyrillicLetters.within wordCodePoints = true := by
    decide +kernel
  exact CodePoints.has_of_within (List.isChain_iff_pairwise.mp chain) within letter

theorem not_word_of_blank {char : Char} (blank : isBlank char = true) :
    isWordCharacter char = false := by
  have disjoint : blankCodePoints.disjoint wordCodePoints = true := by decide +kernel
  exact CodePoints.has_of_disjoint disjoint blank

theorem not_digit_of_blank {char : Char} (blank : isBlank char = true) :
    isDecimalDigit char = false := by
  have disjoint : blankCodePoints.disjoint decimalDigitCodePoints = true := by decide
  exact CodePoints.has_of_disjoint disjoint blank

theorem not_digit_of_cyrillic {char : Char} (letter : isCyrillicLetter char = true) :
    isDecimalDigit char = false := by
  have disjoint : cyrillicLetters.disjoint decimalDigitCodePoints = true := by decide
  exact CodePoints.has_of_disjoint disjoint letter

end ChatAssistant.Text
