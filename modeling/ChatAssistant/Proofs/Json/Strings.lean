import ChatAssistant.Json.Record

/-!
Strings of JSON text. What is written of a text, with its quotes, backslashes and control characters
escaped, is read as that text.
-/

namespace ChatAssistant.Json

/-- What a character is read as after it is written: of the control characters, only those without
a letter of their own are named by their codes. -/
def Symbol.ofChar (char : Char) : Symbol :=
  if char.toNat < 0x20 ∧ char ∉ ['\x08', '\t', '\n', '\x0c', '\r'] then .unit char.toNat
  else .char char

/-- The three ways in which a character is written: behind a backslash as a letter of its own,
behind a backslash as a code, or as it is. -/
theorem escaped_cases (char : Char) :
    (∃ letter, escaped char = ['\\', letter] ∧ Document.unescaped? letter = some char ∧
        Symbol.ofChar char = .char char) ∨
      (char.toNat < 0x20 ∧ Symbol.ofChar char = .unit char.toNat ∧
        escaped char =
          ['\\', 'u', '0', '0', hexDigit (char.toNat / 16), hexDigit (char.toNat % 16)]) ∨
      (¬char.toNat < 0x20 ∧ char ≠ '\"' ∧ char ≠ '\\' ∧ Symbol.ofChar char = .char char ∧
        escaped char = [char]) := by
  by_cases quote : char = '\"'
  · exact Or.inl ⟨'\"', by simp [escaped, quote, Document.unescaped?, Symbol.ofChar]⟩
  by_cases backslash : char = '\\'
  · exact Or.inl ⟨'\\', by simp [escaped, backslash, Document.unescaped?, Symbol.ofChar]⟩
  by_cases backspace : char = '\x08'
  · exact Or.inl ⟨'b', by simp [escaped, backspace, Document.unescaped?, Symbol.ofChar]⟩
  by_cases tab : char = '\t'
  · exact Or.inl ⟨'t', by simp [escaped, tab, Document.unescaped?, Symbol.ofChar]⟩
  by_cases newline : char = '\n'
  · exact Or.inl ⟨'n', by simp [escaped, newline, Document.unescaped?, Symbol.ofChar]⟩
  by_cases formFeed : char = '\x0c'
  · exact Or.inl ⟨'f', by simp [escaped, formFeed, Document.unescaped?, Symbol.ofChar]⟩
  by_cases carriageReturn : char = '\r'
  · exact Or.inl ⟨'r', by simp [escaped, carriageReturn, Document.unescaped?, Symbol.ofChar]⟩
  by_cases control : char.toNat < 0x20
  · refine Or.inr (Or.inl ⟨control, ?_, ?_⟩)
    · simp [Symbol.ofChar, control, backspace, tab, newline, formFeed, carriageReturn]
    · simp [escaped, control, quote, backslash, backspace, tab, newline, formFeed, carriageReturn]
  · refine Or.inr (Or.inr ⟨control, quote, backslash, ?_, ?_⟩)
    · simp [Symbol.ofChar, control]
    · simp [escaped, control, quote, backslash, backspace, tab, newline, formFeed, carriageReturn]

namespace Document

theorem unitCode?_of_control {code : Nat} (control : code < 0x20) :
    unitCode? '0' '0' (hexDigit (code / 16)) (hexDigit (code % 16)) = some code := by
  have codes : ∀ code < 0x20,
      unitCode? '0' '0' (hexDigit (code / 16)) (hexDigit (code % 16)) = some code := by decide
  exact codes code control

theorem readSymbols_letter {letter char : Char} (named : unescaped? letter = some char)
    (text : List Char) :
    readSymbols ('\\' :: letter :: text) =
      (readSymbols text).map fun (symbols, rest) => (.char char :: symbols, rest) := by
  have notCode : letter ≠ 'u' := by
    intro code
    rw [code] at named
    cases named
  cases read : readSymbols text <;> simp [readSymbols, notCode, named, read]

theorem readSymbols_code {first second third fourth : Char} {code : Nat}
    (named : unitCode? first second third fourth = some code) (text : List Char) :
    readSymbols ('\\' :: 'u' :: first :: second :: third :: fourth :: text) =
      (readSymbols text).map fun (symbols, rest) => (.unit code :: symbols, rest) := by
  cases read : readSymbols text <;> simp [readSymbols, named, read]

theorem readSymbols_plain {char : Char} (printed : ¬char.toNat < 0x20) (quote : char ≠ '\"')
    (backslash : char ≠ '\\') (text : List Char) :
    readSymbols (char :: text) =
      (readSymbols text).map fun (symbols, rest) => (.char char :: symbols, rest) := by
  cases read : readSymbols text <;> simp [readSymbols, printed, backslash, read]

theorem readSymbols_escaped (char : Char) (text : List Char) :
    readSymbols (escaped char ++ text) =
      (readSymbols text).map fun (symbols, rest) => (Symbol.ofChar char :: symbols, rest) := by
  rcases escaped_cases char with
    ⟨letter, spelled, named, symbol⟩ | ⟨control, symbol, spelled⟩ |
      ⟨printed, quote, backslash, symbol, spelled⟩
  · rw [spelled, symbol]
    exact readSymbols_letter named text
  · rw [spelled, symbol]
    exact readSymbols_code (unitCode?_of_control control) text
  · rw [spelled, symbol]
    exact readSymbols_plain printed quote backslash text

@[simp]
theorem readSymbols_written (text rest : List Char) :
    readSymbols (text.flatMap escaped ++ '\"' :: rest) = some (text.map Symbol.ofChar, rest) := by
  induction text with
  | nil => simp [readSymbols]
  | cons char text ih =>
      rw [List.flatMap_cons, List.append_assoc, readSymbols_escaped, ih]
      rfl

end Document

theorem characters?_unit {code : Nat} (low : code < 0xD800) (symbols : List Symbol) :
    characters? (.unit code :: symbols) = (characters? symbols).map (Char.ofNat code :: ·) := by
  have notHigh : isHighSurrogate code = false := by
    rw [isHighSurrogate, decide_eq_false (by omega), Bool.false_and]
  have notLow : isLowSurrogate code = false := by
    rw [isLowSurrogate, decide_eq_false (by omega), Bool.false_and]
  cases symbols with
  | nil => simp [characters?, notHigh, notLow]
  | cons symbol symbols =>
      cases symbol with
      | char char => simp [characters?, notHigh, notLow]
      | unit next => simp [characters?, notHigh, notLow]

theorem characters?_ofChar (char : Char) (symbols : List Symbol) :
    characters? (Symbol.ofChar char :: symbols) = (characters? symbols).map (char :: ·) := by
  rcases escaped_cases char with
    ⟨_, _, _, symbol⟩ | ⟨control, symbol, _⟩ | ⟨_, _, _, symbol, _⟩
  · rw [symbol, characters?]
  · rw [symbol, characters?_unit (by omega), Char.ofNat_toNat]
  · rw [symbol, characters?]

theorem characters?_written (text : List Char) :
    characters? (text.map Symbol.ofChar) = some text := by
  induction text with
  | nil => rfl
  | cons char text ih =>
      rw [List.map_cons, characters?_ofChar, ih]
      rfl

@[simp]
theorem symbolText?_written (text : String) :
    symbolText? (text.toList.map Symbol.ofChar) = some text := by
  rw [symbolText?, characters?_written]
  simp

end ChatAssistant.Json
