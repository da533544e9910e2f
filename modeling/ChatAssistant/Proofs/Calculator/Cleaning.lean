import ChatAssistant.Proofs.Route.NamedForms
import ChatAssistant.Proofs.Text.Blank
import ChatAssistant.Proofs.Text.Cyrillic

/-!
What is left of a text when all but the arithmetic is taken away. Each character leaves what it
leaves by itself, whatever is beside it.
-/

namespace ChatAssistant.Calculator

open Text

def arithmeticCharacters : List Char :=
  ['0', '1', '2', '3', '4', '5', '6', '7', '8', '9', '+', '-', '*', '/', '(', ')', '.', '^']

theorem mem_arithmeticCharacters {char : Char} (isPart : isArithmeticCharacter char = true) :
    char ∈ arithmeticCharacters := by
  have digits : ∀ place < 10, Char.ofNat (48 + place) ∈ arithmeticCharacters := by decide
  rw [isArithmeticCharacter, Bool.or_eq_true] at isPart
  rcases isPart with digit | sign
  · rw [Char.isDigit, Bool.and_eq_true, decide_eq_true_iff, decide_eq_true_iff] at digit
    have above : 48 ≤ char.toNat := digit.1
    have below : char.toNat ≤ 57 := digit.2
    have member := digits (char.toNat - 48) (by omega)
    rw [Nat.add_sub_cancel' above, Char.ofNat_toNat] at member
    exact member
  · have signs : ['+', '-', '*', '/', '(', ')', '.', '^'] ⊆ arithmeticCharacters := by decide
    exact signs (List.contains_iff_mem.mp sign)

theorem arithmeticOf_eq_filter (text : List Char) :
    arithmeticOf text = (text.map letterTimesReplaced).filter isArithmeticCharacter := by
  have kept : ∀ char ∈ arithmeticCharacters, isLetterOrBlank char = false := by decide
  rw [arithmeticOf, List.filter_filter]
  apply List.filter_congr
  intro char _
  cases isPart : isArithmeticCharacter char with
  | false => rfl
  | true =>
      rw [kept char (mem_arithmeticCharacters isPart)]
      rfl

theorem signReplaced_of_apart {char : Char} (apart : char ∉ ['×', '÷', 'х', 'x']) :
    signReplaced char = char := by
  simp only [List.mem_cons, List.not_mem_nil, or_false, not_or] at apart
  rw [signReplaced, if_neg apart.1, if_neg apart.2.1]

theorem letterTimesReplaced_of_apart {char : Char} (apart : char ∉ ['×', '÷', 'х', 'x']) :
    letterTimesReplaced char = char := by
  simp only [List.mem_cons, List.not_mem_nil, or_false, not_or] at apart
  exact if_neg (not_or.mpr apart.2.2)

theorem not_arithmetic_of_blank {char : Char} (blank : isBlank char = true) :
    isArithmeticCharacter (letterTimesReplaced (signReplaced char)) = false := by
  have apart : char ∉ ['×', '÷', 'х', 'x'] := by
    intro member
    have visible : ∀ char ∈ ['×', '÷', 'х', 'x'], isBlank char = false := by decide
    rw [visible char member] at blank
    cases blank
  have visible : ∀ char ∈ arithmeticCharacters, isBlank char = false := by decide
  rw [signReplaced_of_apart apart, letterTimesReplaced_of_apart apart, ← Bool.not_eq_true]
  intro isPart
  rw [visible char (mem_arithmeticCharacters isPart)] at blank
  cases blank

theorem arithmeticOf_trim (text : List Char) :
    arithmeticOf ((trim text).map signReplaced) = arithmeticOf (text.map signReplaced) := by
  have erased {space : List Char} (blank : ∀ char ∈ space, isBlank char = true) :
      arithmeticOf (space.map signReplaced) = [] := by
    rw [arithmeticOf_eq_filter, List.filter_eq_nil_iff, List.map_map, List.forall_mem_map]
    intro char member
    rw [Bool.not_eq_true]
    exact not_arithmetic_of_blank (blank char member)
  obtain ⟨front, back, split, blankFront, blankBack⟩ := exists_trim_split text
  have parts : arithmeticOf (text.map signReplaced) = arithmeticOf (front.map signReplaced) ++
      arithmeticOf ((trim text).map signReplaced) ++ arithmeticOf (back.map signReplaced) := by
    rw [split]
    simp only [arithmeticOf_eq_filter, List.map_append, List.filter_append]
    rw [← split]
  rw [parts, erased blankFront, erased blankBack, List.nil_append, List.append_nil]

def cleaned (char : Char) : Char :=
  letterTimesReplaced (signReplaced (toLower char))

def remainder (text : List Char) : List Char :=
  (text.map cleaned).filter isArithmeticCharacter

@[simp]
theorem remainder_append (left right : List Char) :
    remainder (left ++ right) = remainder left ++ remainder right := by
  rw [remainder, List.map_append, List.filter_append]
  rfl

theorem arithmeticOf_normalized {text : List Char}
    (plain : ∀ char ∈ text, char ≠ 'Σ' ∧ char ≠ 'İ') :
    arithmeticOf (normalized text) = remainder text := by
  rw [normalized, arithmeticOf_trim, lowercase_eq_map plain, arithmeticOf_eq_filter, List.map_map,
    List.map_map]
  rfl

/-! ### Texts without the words and signs of a form -/

/-- The words and signs without which no form is looked for. -/
def namingWords : List String :=
  ["корень", "sqrt", "факториал", "!", "процент", "%", "степен"]

section Unmentioned

variable {text : List Char}

theorem factorial?_eq_none (noWord : mentions "факториал" text = false)
    (noSign : mentions "!" text = false) : factorial? text = none := by
  rw [factorial?, noWord, noSign]
  rfl

theorem named?_eq_none (unmentioned : ∀ word ∈ namingWords, mentions word text = false) :
    named? text = none := by
  have byNumbers {words : List String} {form : List Pattern.Piece}
      {ask? : List Float → Option Question} (naming : words ⊆ namingWords) :
      askedByNumbers? words form ask? text = none :=
    askedByNumbers?_eq_none fun word member => unmentioned word (naming member)
  have noFactorial : factorial? text = none :=
    factorial?_eq_none (unmentioned _ (by decide)) (unmentioned _ (by decide))
  rw [named?, squareRoot?, percentage?, power?, byNumbers (by decide), byNumbers (by decide),
    byNumbers (by decide), noFactorial]
  rfl

end Unmentioned

theorem isInfix_of_mentions {word : String} (notMade : ∀ char ∈ word.toList, ¬IsMade char)
    {text : List Char} (mentioned : mentions word (normalized text) = true) :
    word.toList <:+: text.map toLower := by
  obtain ⟨origin, inside, image⟩ :=
    exists_infix_of_normalized notMade ((mentions_iff word _).mp mentioned)
  rw [← image]
  exact List.IsInfix.map toLower inside

theorem isInfix_beside {part left right : List Char} {separator : Char} (apart : separator ∉ part)
    (inside : part <:+: left ++ separator :: right) :
    part <:+: left ∨ part <:+: right := by
  rcases List.infix_append_iff.mp inside with before | behind | ⟨front, back, rfl, ends, starts⟩
  · exact .inl before
  · rcases List.infix_cons_iff.mp behind with starts | behind
    · cases part with
      | nil => exact .inl List.nil_infix
      | cons first rest =>
          rw [List.cons_prefix_cons] at starts
          exact absurd (starts.1 ▸ List.mem_cons_self) apart
    · exact .inr behind
  · cases back with
    | nil =>
        rw [List.append_nil]
        exact .inl ends.isInfix
    | cons first rest =>
        rw [List.cons_prefix_cons] at starts
        exact absurd (List.mem_append_right front (starts.1 ▸ List.mem_cons_self)) apart

def namingStems : List String :=
  ["корень", "факториал", "процент", "степен"]

def IsUtterance (text : List Char) : Prop :=
  ∀ char ∈ text, isCyrillicLetter char = true ∨ char = ' ' ∨ isArithmeticCharacter char = true

theorem IsUtterance.append {left right : List Char} (first : IsUtterance left)
    (second : IsUtterance right) : IsUtterance (left ++ right) :=
  List.forall_mem_append.mpr ⟨first, second⟩

theorem toLower_of_arithmetic {char : Char} (isPart : isArithmeticCharacter char = true) :
    toLower char = char := by
  have same : ∀ char ∈ arithmeticCharacters, toLower char = char := by decide
  exact same char (mem_arithmeticCharacters isPart)

theorem lt_of_arithmetic {char : Char} (isPart : isArithmeticCharacter char = true) :
    char.toNat < 0x400 := by
  have small : ∀ char ∈ arithmeticCharacters, char.toNat < 0x400 := by decide
  exact small char (mem_arithmeticCharacters isPart)

theorem IsUtterance.plain {text : List Char} (utterance : IsUtterance text) :
    ∀ char ∈ text, char ≠ 'Σ' ∧ char ≠ 'İ' := by
  have others : ∀ char ∈ ['Σ', 'İ'],
      isCyrillicLetter char = false ∧ char ≠ ' ' ∧ isArithmeticCharacter char = false := by
    decide
  have apart : ∀ char ∈ text, char ∉ ['Σ', 'İ'] := by
    intro char member special
    obtain ⟨noLetter, noSpace, noPart⟩ := others char special
    rcases utterance char member with letter | space | isPart
    · rw [noLetter] at letter
      cases letter
    · exact noSpace space
    · rw [noPart] at isPart
      cases isPart
  intro char member
  have absent := apart char member
  simp only [List.mem_cons, List.not_mem_nil, or_false, not_or] at absent
  exact absent

theorem IsUtterance.toLower_cases {text : List Char} (utterance : IsUtterance text) :
    ∀ char ∈ text.map toLower,
      0x400 ≤ char.toNat ∨ char = ' ' ∨ isArithmeticCharacter char = true := by
  rw [List.forall_mem_map]
  intro char member
  rcases utterance char member with letter | rfl | isPart
  · exact .inl (le_toLower_of_cyrillic letter)
  · exact .inr (.inl (by decide))
  · rw [toLower_of_arithmetic isPart]
    exact .inr (.inr isPart)

theorem IsUtterance.named?_eq_none {text : List Char} (utterance : IsUtterance text)
    (unnamed : ∀ stem ∈ namingStems, ¬stem.toList <:+: text.map toLower) :
    named? (normalized text) = none := by
  have words : ∀ word ∈ namingWords, (∀ char ∈ word.toList, ¬IsMade char) ∧
      (word ∈ namingStems ∨ ∃ char ∈ word.toList, char ∈ ['s', '!', '%']) := by
    decide
  have signs : ∀ char ∈ ['s', '!', '%'],
      char.toNat < 0x400 ∧ char ≠ ' ' ∧ isArithmeticCharacter char = false := by
    decide
  apply Calculator.named?_eq_none
  intro word member
  obtain ⟨notMade, isStem | ⟨char, inWord, isSign⟩⟩ := words word member
  · rw [← Bool.not_eq_true]
    intro mentioned
    exact unnamed word isStem (isInfix_of_mentions notMade mentioned)
  · rw [← Bool.not_eq_true]
    intro mentioned
    have inText := (isInfix_of_mentions notMade mentioned).subset inWord
    obtain ⟨below, noSpace, noPart⟩ := signs char isSign
    rcases utterance.toLower_cases char inText with letter | space | isPart
    · omega
    · exact noSpace space
    · rw [noPart] at isPart
      cases isPart

end ChatAssistant.Calculator
