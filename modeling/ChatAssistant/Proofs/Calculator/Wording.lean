import ChatAssistant.Proofs.Arithmetic.Reading
import ChatAssistant.Proofs.Calculator.Cleaning
import ChatAssistant.Proofs.Text.Cyrillic
import Mathlib.Data.Nat.Factorial.Basic

/-!
How questions of the named forms are worded: what the operands are made of, what may stand between
them and before them, and what each wording asks.
-/

namespace ChatAssistant.Calculator

open Text Pattern

def IsSmallLetter (char : Char) : Prop :=
  isCyrillicLetter char = true ∧ toLower char = char

instance (char : Char) : Decidable (IsSmallLetter char) :=
  inferInstanceAs (Decidable (_ ∧ _))

/-! ### Numbers -/

structure Numeral where
  whole : List Char
  fraction : Option (List Char)
  nonempty : whole ≠ []
  wholeDigits : ∀ char ∈ whole, char.isDigit = true
  fractionDigits : ∀ places ∈ fraction, ∀ char ∈ places, char.isDigit = true

namespace Numeral

variable (numeral : Numeral)

def places : List Char :=
  numeral.fraction.getD []

def text : List Char :=
  numeral.whole ++
    match numeral.fraction with
    | none => []
    | some places => '.' :: places

def value : Float :=
  Decimal.toFloat ⟨Decimal.ofDigits (numeral.whole ++ numeral.places), -numeral.places.length⟩

end Numeral

theorem isDecimalDigit_of_isDigit {char : Char} (digit : char.isDigit = true) :
    isDecimalDigit char = true := by
  have isPart : isArithmeticCharacter char = true := Bool.or_eq_true_iff.mpr (.inl digit)
  have table : ∀ char ∈ arithmeticCharacters, char.isDigit = true → isDecimalDigit char = true := by
    decide
  exact table char (mem_arithmeticCharacters isPart) digit

theorem Numeral.isNumeral (numeral : Numeral) : IsNumeral numeral.text := by
  obtain ⟨whole, fraction, nonempty, wholeDigits, fractionDigits⟩ := numeral
  have digits : AllDigits whole := fun char member =>
    isDecimalDigit_of_isDigit (wholeDigits char member)
  cases fraction with
  | none => exact ⟨whole, [], rfl, nonempty, digits, .inl rfl⟩
  | some places =>
      have placeDigits : AllDigits places := fun char member =>
        isDecimalDigit_of_isDigit (fractionDigits places rfl char member)
      exact ⟨whole, '.' :: places, rfl, nonempty, digits, .inr ⟨places, rfl, placeDigits⟩⟩

theorem Numeral.number?_text (numeral : Numeral) : number? numeral.text = some numeral.value := by
  obtain ⟨whole, fraction, nonempty, wholeDigits, fractionDigits⟩ := numeral
  unfold number? value
  cases fraction with
  | none =>
      change (Decimal.ofNumeral? (whole ++ [])).map Decimal.toFloat =
        some (Decimal.toFloat ⟨Decimal.ofDigits (whole ++ []), 0⟩)
      rw [List.append_nil, Decimal.ofNumeral?_digits nonempty wholeDigits]
      rfl
  | some places =>
      have digits := List.forall_mem_append.mpr ⟨wholeDigits, fractionDigits places rfl⟩
      change (Decimal.ofNumeral? (whole ++ '.' :: places)).map Decimal.toFloat = _
      rw [Decimal.ofNumeral?_point nonempty digits]
      rfl

theorem Numeral.characters (numeral : Numeral) :
    ∀ char ∈ numeral.text, Arithmetic.isNumeralCharacter char = true := by
  have isRead := numeral.number?_text
  rw [number?, Option.map_eq_some_iff] at isRead
  obtain ⟨decimal, isNumeral, _⟩ := isRead
  exact (Arithmetic.characters_of_isNumeral isNumeral).2

structure WholeNumber where
  digits : List Char
  nonempty : digits ≠ []
  areDigits : ∀ char ∈ digits, char.isDigit = true
  fits : Decimal.ofDigits digits < wholeNumberLimit

def WholeNumber.value (number : WholeNumber) : Nat :=
  Decimal.ofDigits number.digits

/-! ### What stands between and before the operands -/

structure Gap where
  text : List Char
  blank : ∀ char ∈ text, isBlank char = true

structure SomeGap extends Gap where
  nonempty : text ≠ []

/-- Letters in which no word of a form begins. -/
structure Ending where
  text : List Char
  letters : ∀ char ∈ text, IsSmallLetter char
  unnamed : ∀ stem ∈ namingStems, ¬stem.toList <:+: text

/-- Words that name no form, each with white space behind it. -/
structure LeadIn where
  text : List Char
  characters : ∀ char ∈ text, IsSmallLetter char ∨ isBlank char = true
  ends : ∀ last ∈ text.getLast?, isBlank last = true
  unnamed : ∀ stem ∈ namingStems, ¬stem.toList <:+: text

inductive Preposition where
  | ot
  | iz

def Preposition.text : Option Preposition → List Char
  | none => []
  | some .ot => "от".toList
  | some .iz => "из".toList

/-! ### Wordings -/

inductive Wording where
  | root (gap : SomeGap) (preposition : Option SomeGap) (radicand : Numeral)
  | factorialSign (number : WholeNumber) (gap : Gap)
  | factorialWord (ending : Ending) (gap : SomeGap) (number : WholeNumber)
  | percentSign (percent : Numeral) (gap before : Gap) (preposition : Option Preposition)
      (behind : Gap) (base : Numeral)
  | percentWord (percent : Numeral) (gap : Gap) (ending : Ending) (before : SomeGap)
      (preposition : Option Preposition) (behind : Gap) (base : Numeral)
  | power (base : Numeral) (gap : Gap) (between : SomeGap) (behind : Gap) (exponent : Numeral)

namespace Wording

/-- What stands before the last operand, but behind the first one if there are two. -/
def link : Wording → List Char
  | .root gap none _ => "корень".toList ++ gap.text
  | .root gap (some behind) _ => "корень".toList ++ gap.text ++ ("из".toList ++ behind.text)
  | .factorialSign _ gap => gap.text ++ "!".toList
  | .factorialWord ending gap _ => "факториал".toList ++ ending.text ++ gap.text
  | .percentSign _ gap before preposition behind _ =>
      gap.text ++ "%".toList ++ before.text ++ Preposition.text preposition ++ behind.text
  | .percentWord _ gap ending before preposition behind _ =>
      gap.text ++ ("процент".toList ++ ending.text) ++ before.text ++
        Preposition.text preposition ++ behind.text
  | .power _ gap between behind _ =>
      gap.text ++ "в".toList ++ between.text ++ "степени".toList ++ behind.text

def text (wording : Wording) : List Char :=
  match wording with
  | .root _ _ radicand => wording.link ++ radicand.text
  | .factorialSign number _ => number.digits ++ wording.link
  | .factorialWord _ _ number => wording.link ++ number.digits
  | .percentSign percent _ _ _ _ base => percent.text ++ (wording.link ++ base.text)
  | .percentWord percent _ _ _ _ _ base => percent.text ++ (wording.link ++ base.text)
  | .power base _ _ _ exponent => base.text ++ (wording.link ++ exponent.text)

def question : Wording → Question
  | .root _ _ radicand => .squareRoot radicand.value
  | .factorialSign number _ => .factorial number.value
  | .factorialWord _ _ number => .factorial number.value
  | .percentSign percent _ _ _ _ base => .percentage percent.value base.value
  | .percentWord percent _ _ _ _ _ base => .percentage percent.value base.value
  | .power base _ _ _ exponent => .power base.value exponent.value

def bounded (number : Float) : Except Failure Amount :=
  if number.isFinite then .ok (.real number) else .error .overflow

def limitedFactorial (number : Nat) : Except Failure Amount :=
  if number ≤ 20 then .ok (.whole number.factorial) else .error .factorialTooLarge

def percentage (percent base : Float) : Except Failure Amount :=
  bounded (percent * base / 100)

/-- To the power zero every number gives one. -/
def powerOf (base exponent : Float) : Float :=
  if exponent == 0 then 1 else Float.pow base exponent

def result : Wording → Except Failure Amount
  | .root _ _ radicand => bounded radicand.value.sqrt
  | .factorialSign number _ => limitedFactorial number.value
  | .factorialWord _ _ number => limitedFactorial number.value
  | .percentSign percent _ _ _ _ base => percentage percent.value base.value
  | .percentWord percent _ _ _ _ _ base => percentage percent.value base.value
  | .power base _ _ _ exponent =>
      if 100 < exponent.value then .error .exponentTooLarge
      else bounded (powerOf base.value exponent.value)

theorem append_link (first second third fourth fifth last : List Char) :
    first ++ second ++ third ++ fourth ++ fifth ++ last =
      first ++ (second ++ (third ++ (fourth ++ (fifth ++ last)))) := by
  simp only [List.append_assoc]

/-! ### The characters of a wording -/

def letters : Wording → List Char
  | .root _ _ _ => "кореньиз".toList
  | .factorialSign _ _ => "!".toList
  | .factorialWord _ _ _ => "факториал".toList
  | .percentSign _ _ _ _ _ _ => "%отиз".toList
  | .percentWord _ _ _ _ _ _ _ => "процентотиз".toList
  | .power _ _ _ _ _ => "встепени".toList

def ending : Wording → List Char
  | .factorialWord ending _ _ => ending.text
  | .percentWord _ _ ending _ _ _ _ => ending.text
  | _ => []

theorem isSmallLetter_of_ending (wording : Wording) :
    ∀ char ∈ wording.ending, IsSmallLetter char := by
  cases wording with
  | factorialWord ending _ _ | percentWord _ _ ending => exact ending.letters
  | root | factorialSign | percentSign | power => exact List.forall_mem_nil _

theorem preposition_subset (preposition : Option Preposition) :
    Preposition.text preposition ⊆ "отиз".toList := by
  rcases preposition with _ | _ | _
  · exact List.nil_subset _
  · decide
  · decide

section Characters

variable {P : Char → Prop} (wording : Wording)

/-- What holds of white space, of the letters of the form and of the ending, holds of the link. -/
theorem forall_mem_link (blanks : ∀ char, isBlank char = true → P char)
    (letters : ∀ char ∈ wording.letters, P char) (ending : ∀ char ∈ wording.ending, P char) :
    ∀ char ∈ wording.link, P char := by
  have gaps (gap : Gap) : ∀ char ∈ gap.text, P char := fun char member =>
    blanks char (gap.blank char member)
  have word {word : List Char} (part : word ⊆ wording.letters) : ∀ char ∈ word, P char :=
    fun char member => letters char (part member)
  cases wording with
  | root gap preposition radicand =>
      have root := word (show "корень".toList ⊆ "кореньиз".toList by decide)
      have iz := word (show "из".toList ⊆ "кореньиз".toList by decide)
      have named := List.forall_mem_append.mpr ⟨root, gaps gap.toGap⟩
      cases preposition with
      | none => exact named
      | some behind =>
          have more := List.forall_mem_append.mpr ⟨iz, gaps behind.toGap⟩
          exact List.forall_mem_append.mpr ⟨named, more⟩
  | factorialSign number gap => exact List.forall_mem_append.mpr ⟨gaps gap, letters⟩
  | factorialWord stem gap number =>
      have named := List.forall_mem_append.mpr ⟨letters, ending⟩
      exact List.forall_mem_append.mpr ⟨named, gaps gap.toGap⟩
  | percentSign percent gap before preposition behind base =>
      have sign := word (show "%".toList ⊆ "%отиз".toList by decide)
      have beside := word (show "отиз".toList ⊆ "%отиз".toList by decide)
      have mark := List.forall_mem_append.mpr ⟨gaps gap, sign⟩
      have space := List.forall_mem_append.mpr ⟨mark, gaps before⟩
      have named := List.forall_mem_append.mpr ⟨space, fun char member =>
        beside char (preposition_subset preposition member)⟩
      exact List.forall_mem_append.mpr ⟨named, gaps behind⟩
  | percentWord percent gap stem before preposition behind base =>
      have name := word (show "процент".toList ⊆ "процентотиз".toList by decide)
      have beside := word (show "отиз".toList ⊆ "процентотиз".toList by decide)
      have mark := List.forall_mem_append.mpr ⟨gaps gap, List.forall_mem_append.mpr ⟨name, ending⟩⟩
      have space := List.forall_mem_append.mpr ⟨mark, gaps before.toGap⟩
      have named := List.forall_mem_append.mpr ⟨space, fun char member =>
        beside char (preposition_subset preposition member)⟩
      exact List.forall_mem_append.mpr ⟨named, gaps behind⟩
  | power base gap between behind exponent =>
      have into := word (show "в".toList ⊆ "встепени".toList by decide)
      have power := word (show "степени".toList ⊆ "встепени".toList by decide)
      have first := List.forall_mem_append.mpr ⟨gaps gap, into⟩
      have space := List.forall_mem_append.mpr ⟨first, gaps between.toGap⟩
      have named := List.forall_mem_append.mpr ⟨space, power⟩
      exact List.forall_mem_append.mpr ⟨named, gaps behind⟩

theorem forall_mem_text (link : ∀ char ∈ wording.link, P char)
    (numerals : ∀ char, Arithmetic.isNumeralCharacter char = true → P char) :
    ∀ char ∈ wording.text, P char := by
  have numeral (numeral : Numeral) : ∀ char ∈ numeral.text, P char := fun char member =>
    numerals char (numeral.characters char member)
  have digits (number : WholeNumber) : ∀ char ∈ number.digits, P char := fun char member =>
    numerals char (Bool.or_eq_true_iff.mpr (.inl (number.areDigits char member)))
  cases wording with
  | root _ _ radicand => exact List.forall_mem_append.mpr ⟨link, numeral radicand⟩
  | factorialSign number _ => exact List.forall_mem_append.mpr ⟨digits number, link⟩
  | factorialWord _ _ number => exact List.forall_mem_append.mpr ⟨link, digits number⟩
  | percentSign percent _ _ _ _ base | percentWord percent _ _ _ _ _ base =>
      have behind := List.forall_mem_append.mpr ⟨link, numeral base⟩
      exact List.forall_mem_append.mpr ⟨numeral percent, behind⟩
  | power base _ _ _ exponent =>
      have behind := List.forall_mem_append.mpr ⟨link, numeral exponent⟩
      exact List.forall_mem_append.mpr ⟨numeral base, behind⟩

end Characters

def IsLinkCharacter (char : Char) : Prop :=
  IsSmallLetter char ∨ isBlank char = true ∨ char = '!' ∨ char = '%'

instance (char : Char) : Decidable (IsLinkCharacter char) :=
  inferInstanceAs (Decidable (_ ∨ _))

theorem isLinkCharacter_of_mem (wording : Wording) :
    ∀ char ∈ wording.link, IsLinkCharacter char := by
  have table : ∀ word ∈ ["кореньиз", "!", "факториал", "%отиз", "процентотиз", "встепени"],
      ∀ char ∈ word.toList, IsLinkCharacter char := by
    decide
  have letters : ∀ char ∈ wording.letters, IsLinkCharacter char := by
    cases wording with
    | root => exact table "кореньиз" (by decide)
    | factorialSign => exact table "!" (by decide)
    | factorialWord => exact table "факториал" (by decide)
    | percentSign => exact table "%отиз" (by decide)
    | percentWord => exact table "процентотиз" (by decide)
    | power => exact table "встепени" (by decide)
  exact forall_mem_link wording (fun char blank => .inr (.inl blank)) letters
    fun char member => .inl (isSmallLetter_of_ending wording char member)

end Wording

end ChatAssistant.Calculator
