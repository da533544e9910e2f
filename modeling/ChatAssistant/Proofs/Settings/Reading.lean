import ChatAssistant.Proofs.Decimal.Digits
import ChatAssistant.Proofs.Text.Blank
import ChatAssistant.Settings

/-!
Settings as their variables tell them. Only the timeout can be at fault, and it is exactly if it
tells something that is no number of one word.
-/

namespace ChatAssistant

namespace Settings

/-! ### Numbers of seconds -/

def unsigned : List Char → List Char
  | '+' :: text => text
  | text => text

def leadingDigits (text : List Char) : List Char :=
  (unsigned text).takeWhile Char.isDigit

/-- The text is the number in at least one digit, with zeros at the front or not, and maybe a plus
sign before them. The number fits in a word. -/
def IsSeconds (text : List Char) (number : Nat) : Prop :=
  ∃ digits, (text = digits ∨ text = '+' :: digits) ∧ digits ≠ [] ∧
    (∀ char ∈ digits, char.isDigit = true) ∧ Decimal.ofDigits digits = number ∧
    number ≤ 2 ^ 64 - 1

/-- Why a text is no number of seconds: the digits up to the first fault are too many already, or
else this fault is a character. -/
def causeOf (text : List Char) : TimeoutFault :=
  if 2 ^ 64 - 1 < Decimal.ofDigits (leadingDigits text) then .tooLarge else .invalidDigit

/-- Digits are read up to one that makes the number too large; if none does, the first character
that is no digit decides. -/
theorem readSeconds_eq {start : Nat} (fits : start < timeoutLimit) (text : List Char) :
    readSeconds start text =
      let number := (text.takeWhile Char.isDigit).foldl
        (fun number char => number * 10 + Decimal.digitValue char) start
      if timeoutLimit ≤ number then .error .tooLarge
      else if text.all Char.isDigit then .ok number else .error .invalidDigit := by
  induction text generalizing start with
  | nil => simp [readSeconds, fits]
  | cons char text ih =>
      by_cases digit : char.isDigit = true
      · have value : start * 10 + (char.toNat - '0'.toNat) =
            start * 10 + Decimal.digitValue char := by
          rw [Decimal.digitValue, if_pos digit]
        simp only [readSeconds, digit, if_true, value, List.takeWhile_cons_of_pos digit,
          List.foldl_cons, List.all_cons, Bool.true_and]
        by_cases next : start * 10 + Decimal.digitValue char < timeoutLimit
        · rw [if_pos next]
          exact ih next
        · have large : timeoutLimit ≤ (text.takeWhile Char.isDigit).foldl
              (fun number char => number * 10 + Decimal.digitValue char)
              (start * 10 + Decimal.digitValue char) := by
            rw [Decimal.foldl_digits]
            have power : 0 < 10 ^ (text.takeWhile Char.isDigit).length := Nat.pow_pos (by decide)
            have more := Nat.le_mul_of_pos_right (start * 10 + Decimal.digitValue char) power
            omega
          rw [if_neg next, if_pos large]
      · have small : ¬timeoutLimit ≤ start := Nat.not_le.mpr fits
        simp [readSeconds, digit, small]

theorem seconds_of_unsigned_nil {text : List Char} (empty : unsigned text = []) :
    seconds text = .error .invalidDigit := by
  unfold unsigned at empty
  split at empty
  · rw [empty]
    rfl
  · rw [empty]
    rfl

theorem seconds_of_unsigned {text : List Char} (nonempty : unsigned text ≠ []) :
    seconds text =
      if timeoutLimit ≤ Decimal.ofDigits (leadingDigits text) then .error .tooLarge
      else if (unsigned text).all Char.isDigit then .ok (Decimal.ofDigits (leadingDigits text))
      else .error .invalidDigit := by
  have read : seconds text = readSeconds 0 (unsigned text) := by
    unfold seconds
    split
    · exact absurd rfl nonempty
    · exact absurd rfl nonempty
    · rfl
    · rename_i noSign
      have bare : unsigned text = text := by
        unfold unsigned
        split
        · exact absurd rfl (noSign _)
        · rfl
      rw [bare]
  rw [read]
  exact readSeconds_eq (by decide) (unsigned text)

theorem unsigned_of_digits {digits : List Char} (allDigits : ∀ char ∈ digits, char.isDigit = true) :
    unsigned digits = digits := by
  unfold unsigned
  split
  · exact absurd (allDigits '+' List.mem_cons_self) (by decide)
  · rfl

theorem isSeconds_iff (text : List Char) (number : Nat) :
    IsSeconds text number ↔
      unsigned text ≠ [] ∧ (∀ char ∈ unsigned text, char.isDigit = true) ∧
        Decimal.ofDigits (leadingDigits text) = number ∧ number ≤ 2 ^ 64 - 1 := by
  constructor
  · rintro ⟨digits, spelled, nonempty, allDigits, value, fits⟩
    have bare : unsigned text = digits := by
      rcases spelled with rfl | rfl
      · exact unsigned_of_digits allDigits
      · rfl
    have all : leadingDigits text = digits := by
      rw [leadingDigits, bare, List.takeWhile_eq_self_iff]
      exact allDigits
    rw [bare, all]
    exact ⟨nonempty, allDigits, value, fits⟩
  · rintro ⟨nonempty, allDigits, value, fits⟩
    have all : leadingDigits text = unsigned text := by
      rw [leadingDigits, List.takeWhile_eq_self_iff]
      exact allDigits
    have spelled : text = unsigned text ∨ text = '+' :: unsigned text := by
      unfold unsigned
      split
      · exact Or.inr rfl
      · exact Or.inl rfl
    rw [all] at value
    exact ⟨unsigned text, spelled, nonempty, allDigits, value, fits⟩

theorem IsSeconds.unique {text : List Char} {first second : Nat} (isFirst : IsSeconds text first)
    (isSecond : IsSeconds text second) : first = second := by
  rw [isSeconds_iff] at isFirst isSecond
  exact isFirst.2.2.1.symm.trans isSecond.2.2.1

theorem seconds_cases (text : List Char) :
    (∃ number, IsSeconds text number ∧ seconds text = .ok number) ∨
      (∀ number, ¬IsSeconds text number) ∧ seconds text = .error (causeOf text) := by
  have limit : timeoutLimit = 2 ^ 64 := rfl
  simp only [isSeconds_iff]
  by_cases empty : unsigned text = []
  · have cause : causeOf text = .invalidDigit := by
      rw [causeOf, leadingDigits, empty]
      rfl
    rw [cause]
    exact Or.inr ⟨fun number held => held.1 empty, seconds_of_unsigned_nil empty⟩
  · rw [seconds_of_unsigned empty]
    by_cases large : timeoutLimit ≤ Decimal.ofDigits (leadingDigits text)
    · have cause : causeOf text = .tooLarge := if_pos (by omega)
      rw [if_pos large, cause]
      refine Or.inr ⟨?_, rfl⟩
      rintro number ⟨_, _, rfl, fits⟩
      omega
    · rw [if_neg large]
      by_cases allDigits : ∀ char ∈ unsigned text, char.isDigit = true
      · rw [if_pos (List.all_eq_true.mpr allDigits)]
        exact Or.inl ⟨_, ⟨empty, allDigits, rfl, by omega⟩, rfl⟩
      · have cause : causeOf text = .invalidDigit := if_neg (by omega)
        rw [if_neg (mt List.all_eq_true.mp allDigits), cause]
        exact Or.inr ⟨fun number held => allDigits held.2.1, rfl⟩

/-! ### Variables -/

/-- What a variable tells, if it tells anything: its text without the white space around it. -/
def Tells (held? : Option String) (text : String) : Prop :=
  text ≠ "" ∧ ∃ held, held? = some held ∧ text.toList = Text.trim held.toList

def TellsNothing (held? : Option String) : Prop :=
  ∀ held, held? = some held → ∀ char ∈ held.toList, Text.isBlank char = true

structure IsTaken (held? taken? : Option String) : Prop where
  text : ∀ text, taken? = some text ↔ Tells held? text
  nothing : taken? = none ↔ TellsNothing held?

theorem tellsNothing_iff (held? : Option String) :
    TellsNothing held? ↔ ∀ text, ¬Tells held? text := by
  constructor
  · rintro blank text ⟨some, held, found, trimmed⟩
    rw [(Text.trim_eq_nil_iff _).mpr (blank held found)] at trimmed
    exact some (String.toList_eq_nil_iff.mp trimmed)
  · intro silent held found
    rw [← Text.trim_eq_nil_iff]
    by_contra some
    refine silent (String.ofList (Text.trim held.toList)) ⟨?_, held, found, String.toList_ofList⟩
    intro empty
    exact some (String.ofList_eq_empty_iff.mp empty)

theorem value?_eq_some_iff (lookup : String → Option String) (name text : String) :
    value? lookup name = some text ↔ Tells (lookup name) text := by
  simp only [value?, Tells, Option.filter_eq_some_iff, Option.map_eq_some_iff, Bool.not_eq_true',
    String.isEmpty_eq_false_iff]
  constructor
  · rintro ⟨⟨held, found, rfl⟩, some⟩
    exact ⟨some, held, found, String.toList_ofList⟩
  · rintro ⟨some, held, found, trimmed⟩
    refine ⟨⟨held, found, ?_⟩, some⟩
    rw [← trimmed, String.ofList_toList]

theorem value?_eq_none_iff (lookup : String → Option String) (name : String) :
    value? lookup name = none ↔ TellsNothing (lookup name) := by
  rw [Option.eq_none_iff_forall_ne_some, tellsNothing_iff]
  simp only [ne_eq, value?_eq_some_iff]

theorem isTaken_value? (lookup : String → Option String) (name : String) :
    IsTaken (lookup name) (value? lookup name) :=
  ⟨value?_eq_some_iff lookup name, value?_eq_none_iff lookup name⟩

def trimmed (text : String) : String :=
  String.ofList (Text.trim text.toList)

/-- A look-up in which some of the variables have lost the white space around their texts. -/
def trimming (chosen : String → Bool) (lookup : String → Option String) (name : String) :
    Option String :=
  if chosen name then (lookup name).map trimmed else lookup name

theorem value?_trimming (chosen : String → Bool) (lookup : String → Option String) (name : String) :
    value? (trimming chosen lookup) name = value? lookup name := by
  have again (text : String) : trimmed (trimmed text) = trimmed text := by
    rw [trimmed, trimmed, String.toList_ofList, Text.trim_trim]
  have once : (trimming chosen lookup name).map trimmed = (lookup name).map trimmed := by
    unfold trimming
    split
    · rw [Option.map_map]
      exact Option.map_congr fun text _ => again text
    · rfl
  exact congrArg (Option.filter (!·.isEmpty)) once

theorem readTimeout_eq_error_iff (text? : Option String) (fault : Fault) :
    readTimeout text? = .error fault ↔
      ∃ text, text? = some text ∧ (∀ number, ¬IsSeconds text.toList number) ∧
        fault = ⟨text, causeOf text.toList⟩ := by
  cases text? with
  | none => exact iff_of_false (by rintro ⟨⟩) (by rintro ⟨_, ⟨⟩, _⟩)
  | some text =>
      rcases seconds_cases text.toList with ⟨number, isNumber, taken⟩ | ⟨noNumber, refused⟩
      · simp only [readTimeout, taken]
        apply iff_of_false (by rintro ⟨⟩)
        rintro ⟨_, ⟨⟩, noNumber, _⟩
        exact noNumber number isNumber
      · simp only [readTimeout, refused]
        constructor
        · rintro ⟨⟩
          exact ⟨text, rfl, noNumber, rfl⟩
        · rintro ⟨_, ⟨⟩, _, rfl⟩
          rfl

theorem timeout_of_readTimeout {text? : Option String} {timeout : Option Nat}
    (taken : readTimeout text? = .ok timeout) :
    (∀ number, timeout = some number ↔
      number ≠ 0 ∧ ∃ text, text? = some text ∧ IsSeconds text.toList number) ∧
    (timeout = none ↔ text? = none ∨ ∃ text, text? = some text ∧ IsSeconds text.toList 0) := by
  cases text? with
  | none =>
      cases taken
      simp
  | some text =>
      rcases seconds_cases text.toList with ⟨number, isNumber, counted⟩ | ⟨noNumber, refused⟩
      · have only (other : Nat) : IsSeconds text.toList other ↔ other = number :=
          ⟨fun isOther => isOther.unique isNumber, fun same => same ▸ isNumber⟩
        simp only [readTimeout, counted, Except.ok.injEq] at taken
        subst taken
        simp only [Option.some.injEq, exists_eq_left', only, reduceCtorEq, false_or]
        by_cases zero : number = 0
        · simp [zero]
        · simp [zero, Ne.symm zero, eq_comm]
      · simp only [readTimeout, refused, reduceCtorEq] at taken

theorem read_eq_error_iff (lookup : String → Option String) (fault : Fault) :
    read lookup = .error fault ↔ readTimeout (value? lookup requestTimeoutName) = .error fault := by
  unfold read
  cases readTimeout (value? lookup requestTimeoutName) with
  | error other =>
      constructor
      · rintro ⟨⟩
        rfl
      · rintro ⟨⟩
        rfl
  | ok timeout => exact iff_of_false (by rintro ⟨⟩) (by rintro ⟨⟩)

theorem read_eq_ok_iff (lookup : String → Option String) (settings : Settings) :
    read lookup = .ok settings ↔
      readTimeout (value? lookup requestTimeoutName) = .ok settings.requestTimeout ∧
        value? lookup mathEndpointName = settings.mathEndpoint ∧
        value? lookup searchEndpointName = settings.searchEndpoint ∧
        value? lookup dataDirectoryName = settings.dataDirectory := by
  obtain ⟨math, search, timeout, directory⟩ := settings
  unfold read
  cases readTimeout (value? lookup requestTimeoutName) with
  | error fault => exact iff_of_false (by rintro ⟨⟩) (by rintro ⟨⟨⟩, _⟩)
  | ok taken =>
      constructor
      · rintro ⟨⟩
        exact ⟨rfl, rfl, rfl, rfl⟩
      · rintro ⟨⟨⟩, rfl, rfl, rfl⟩
        rfl

/-- The settings cannot be read exactly if the variable of the timeout tells something that is no
number of seconds, whatever the others tell, and the fault names this text and why it is none. What
is read is what the variables tell, where a timeout of zero counts as none. White space around the
text of a variable changes nothing. -/
theorem read_of_variables (lookup : String → Option String) :
    (∀ fault, read lookup = .error fault ↔
      ∃ text, Tells (lookup requestTimeoutName) text ∧
        (∀ number, ¬IsSeconds text.toList number) ∧ fault = ⟨text, causeOf text.toList⟩) ∧
    (∀ settings, read lookup = .ok settings →
      (∀ number, settings.requestTimeout = some number ↔
        number ≠ 0 ∧ ∃ text, Tells (lookup requestTimeoutName) text ∧
          IsSeconds text.toList number) ∧
      (settings.requestTimeout = none ↔ TellsNothing (lookup requestTimeoutName) ∨
        ∃ text, Tells (lookup requestTimeoutName) text ∧ IsSeconds text.toList 0) ∧
      IsTaken (lookup mathEndpointName) settings.mathEndpoint ∧
      IsTaken (lookup searchEndpointName) settings.searchEndpoint ∧
      IsTaken (lookup dataDirectoryName) settings.dataDirectory) ∧
    (∀ chosen : String → Bool, read (trimming chosen lookup) = read lookup) := by
  refine ⟨?_, ?_, ?_⟩
  · intro fault
    simp only [read_eq_error_iff, readTimeout_eq_error_iff, value?_eq_some_iff]
  · intro settings isRead
    obtain ⟨timeout, math, search, directory⟩ := (read_eq_ok_iff lookup settings).mp isRead
    obtain ⟨counted, none⟩ := timeout_of_readTimeout timeout
    simp only [value?_eq_some_iff, value?_eq_none_iff] at counted none
    rw [← math, ← search, ← directory]
    exact ⟨counted, none, isTaken_value? lookup _, isTaken_value? lookup _, isTaken_value? lookup _⟩
  · intro chosen
    simp only [read, value?_trimming]

/-- A sign, zeros and white space stand around the first number; the second one is too large before
it goes wrong. -/
theorem read_of_variables_signed :
    let lookup : String → Option String := fun name =>
      if name = requestTimeoutName then some "\u2003+0030\n"
      else if name = mathEndpointName then some " https://example.com/math "
      else if name = dataDirectoryName then some " "
      else none
    let faulty : String → Option String := fun _ => some " 18446744073709551616s "
    (∃ settings, read lookup = .ok settings ∧ settings.requestTimeout = some 30 ∧
      settings.mathEndpoint = some "https://example.com/math" ∧ settings.dataDirectory = none) ∧
    read (trimming (· = requestTimeoutName) lookup) = read lookup ∧
    read faulty = .error ⟨"18446744073709551616s", .tooLarge⟩ := by
  intro lookup faulty
  have isRead : read lookup = .ok ⟨some "https://example.com/math", none, some 30, none⟩ := by
    decide +kernel
  obtain ⟨_, told, unchanged⟩ := read_of_variables lookup
  obtain ⟨counted, _, math, _, directory⟩ := told _ isRead
  have seconds : IsSeconds "+0030".toList 30 :=
    ⟨"0030".toList, Or.inr rfl, by decide, List.all_eq_true.mp (by decide), by decide, by decide⟩
  have noSeconds (number : Nat) : ¬IsSeconds "18446744073709551616s".toList number := by
    rw [isSeconds_iff]
    rintro ⟨_, allDigits, _⟩
    exact absurd (allDigits 's' (by decide)) (by decide)
  refine ⟨⟨_, isRead, ?_, ?_, ?_⟩, unchanged _, ?_⟩
  · exact (counted 30).mpr ⟨by decide, "+0030", ⟨by decide, _, rfl, by decide⟩, seconds⟩
  · exact (math.text _).mpr ⟨by decide, _, rfl, by decide⟩
  · refine directory.nothing.mpr ?_
    rintro held ⟨⟩
    exact List.all_eq_true.mp (by decide)
  · refine ((read_of_variables faulty).1 _).mpr ⟨_, ⟨by decide, _, rfl, by decide⟩, noSeconds, ?_⟩
    decide

end Settings

end ChatAssistant
