import ChatAssistant.Proofs.Decimal.Whole
import ChatAssistant.Proofs.Json.Fields
import ChatAssistant.Reply

/-!
Results of the calculator as the reader sees them. Integers and texts lose nothing on the way from
the body of the answer, and it does not matter whether a small integer comes with a fraction of
zero.
-/

namespace ChatAssistant

open Json (Document)

namespace Json

theorem ofList_integerText (number : Int) :
    String.ofList (integerText number) = toString number := by
  cases number with
  | ofNat number => rfl
  | negSucc number => exact @String.ofList_append ['-'] _

namespace Document

theorem value?_integer {number : Int} (least : -2 ^ 63 ≤ number) (most : number < 2 ^ 64)
    (depth : Nat) : (ofJson (.integer number)).value? depth = some (.integer number) := by
  have limit : UInt64.size = 2 ^ 64 := rfl
  rw [ofJson, value?, Numeral.value?]
  simp only [Option.isSome_none, Bool.or_self, Bool.false_eq_true, if_false, decide_eq_true_eq,
    Decimal.ofDigits_digits]
  split
  · rw [if_pos (by omega)]
    congr 2
    omega
  · rw [if_pos (by omega)]
    congr 2
    omega

theorem value?_integer_point {number : Int} (small : number.natAbs < Decimal.integerLimit)
    (depth : Nat) :
    ∃ value, (Document.number ⟨number < 0, Decimal.digits number.natAbs, some ['0'], none⟩).value?
        depth = some (.real value) ∧ Decimal.shown value = integerText number := by
  let numeral : Numeral := ⟨number < 0, Decimal.digits number.natAbs, some ['0'], none⟩
  have coefficient : Decimal.ofDigits (Decimal.digits number.natAbs ++ ['0']) =
      number.natAbs * 10 := by
    rw [Decimal.ofDigits_append, Decimal.ofDigits_digits]
    rfl
  -- The zero makes the coefficient ten times as large, which the exponent takes back.
  have same : numeral.decimal.value = number.natAbs := by
    change (Decimal.ofDigits (Decimal.digits number.natAbs ++ ['0']) : ℚ) * 10 ^ (-1 : Int) = _
    rw [coefficient]
    push_cast
    rw [zpow_neg_one, mul_inv_cancel_right₀ (by norm_num)]
  obtain ⟨finite, shown, opposite⟩ := Decimal.shown_toFloat_of_whole same small
  refine ⟨if numeral.isNegative then -numeral.decimal.toFloat else numeral.decimal.toFloat, ?_, ?_⟩
  · rw [Document.value?]
    change numeral.real? = _
    rw [Numeral.real?, if_pos finite]
  · cases number with
    | ofNat number => exact shown
    | negSucc number =>
        have sign : numeral.isNegative = true := decide_eq_true (Int.negSucc_lt_zero number)
        rw [if_pos sign]
        exact opposite (Nat.succ_pos number)

end Document

end Json

namespace MathAnswer

def Holds (body : List Char) (result : Option Document) (others : List (Option Document)) : Prop :=
  ∃ document, Document.read? body = some document ∧
    document.fields? ["result", "explanation", "steps", "error"] = some (result :: others)

theorem Holds.unique {body : List Char} {first second : Option Document}
    {others others' : List (Option Document)} (holds : Holds body first others)
    (again : Holds body second others') : first = second ∧ others = others' := by
  obtain ⟨document, read, fields⟩ := holds
  obtain ⟨document', read', fields'⟩ := again
  rw [read] at read'
  cases read'
  rw [fields] at fields'
  cases fields'
  exact ⟨rfl, rfl⟩

theorem read?_eq_some_iff {body : List Char} {answer : MathAnswer} :
    read? body = some answer ↔
      ∃ result explanation steps error, Holds body result [explanation, steps, error] ∧
        Document.optional? (Document.value? resultLevels) result = some answer.result ∧
        Document.optional? Document.text? explanation = some answer.explanation ∧
        Document.defaulted? [] (Document.list? Document.text?) steps = some answer.steps ∧
        Document.optional? Document.text? error = some answer.error := by
  constructor
  · intro read
    obtain ⟨document, documentRead, record⟩ := Option.bind_eq_some_iff.mp read
    unfold ofDocument? at record
    simp only [Option.bind_eq_bind, Option.bind_eq_some_iff] at record
    obtain ⟨fields, fieldsRead, record⟩ := record
    split at record
    · rename_i result explanation steps error
      simp only [Option.bind_eq_some_iff] at record
      obtain ⟨_, resultRead, _, explanationRead, _, stepsRead, _, errorRead, same⟩ := record
      cases same
      exact ⟨result, explanation, steps, error, ⟨document, documentRead, fieldsRead⟩, resultRead,
        explanationRead, stepsRead, errorRead⟩
    · cases record
  · rintro ⟨result, explanation, steps, error, ⟨document, documentRead, fieldsRead⟩, resultRead,
      explanationRead, stepsRead, errorRead⟩
    simp [read?, documentRead, ofDocument?, fieldsRead, resultRead, explanationRead, stepsRead,
      errorRead]

def IsWritten (text : String) (field : Option Document) : Prop :=
  ∃ document, field = some document ∧ Document.Spells text.toList document

variable {field : Option Document} {number : Int}

theorem isWritten_iff {text : String} {document : Document}
    (spells : Document.Spells text.toList document) :
    IsWritten text field ↔ field = some document := by
  constructor
  · rintro ⟨other, rfl, spellsOther⟩
    rw [spellsOther.unique spells]
  · rintro rfl
    exact ⟨document, rfl, spells⟩

theorem isWritten_integer_iff :
    IsWritten (toString number) field ↔ field = some (.ofJson (.integer number)) := by
  apply isWritten_iff
  rw [← Json.ofList_integerText, String.toList_ofList]
  exact Document.spells_integer number

theorem isWritten_point_iff :
    IsWritten (toString number ++ ".0") field ↔
      field = some (.number ⟨number < 0, Decimal.digits number.natAbs, some ['0'], none⟩) := by
  have point : ".0".toList = ['.', '0'] := by decide
  have digit : ∀ char ∈ ['0'], char.isDigit = true := List.forall_mem_singleton.mpr rfl
  apply isWritten_iff
  rw [← Json.ofList_integerText, String.toList_append, String.toList_ofList, point]
  exact Document.spells_point number (List.cons_ne_nil _ _) digit

theorem value_of_isWritten (least : -2 ^ 63 ≤ number) (most : number < 2 ^ 64)
    (written : IsWritten (toString number) field) :
    Document.optional? (Document.value? resultLevels) field = some (some (.integer number)) := by
  have value := Document.value?_integer least most resultLevels
  rw [isWritten_integer_iff.mp written]
  rw [Document.ofJson] at value ⊢
  rw [Document.optional?, value, Option.map_some]
  rintro ⟨⟩

theorem value_of_isWritten_point (small : number.natAbs < Decimal.integerLimit)
    (written : IsWritten (toString number ++ ".0") field) :
    ∃ value, Document.optional? (Document.value? resultLevels) field = some (some (.real value)) ∧
      String.ofList (Decimal.shown value) = toString number := by
  obtain ⟨value, read, shown⟩ := Document.value?_integer_point small resultLevels
  refine ⟨value, ?_, by rw [shown, Json.ofList_integerText]⟩
  rw [isWritten_point_iff.mp written, Document.optional?, read, Option.map_some]
  rintro ⟨⟩

end MathAnswer

namespace Reply

open MathAnswer (Holds IsWritten)

theorem resultText_of_isWritten {field : Option Document} {number : Int}
    (small : number.natAbs < 10 ^ 15)
    (written : IsWritten (toString number) field ∨ IsWritten (toString number ++ ".0") field) :
    ∃ value, Document.optional? (Document.value? MathAnswer.resultLevels) field =
        some (some value) ∧
      resultText value = toString number ∧ value ≠ .null := by
  rcases written with whole | point
  · refine ⟨_, MathAnswer.value_of_isWritten (by omega) (by omega) whole, ?_, ?_⟩
    · rw [resultText, Json.text, Json.compact, Json.ofList_integerText]
      all_goals rintro _ ⟨⟩
    · rintro ⟨⟩
  · obtain ⟨value, read, shown⟩ := MathAnswer.value_of_isWritten_point small point
    refine ⟨_, read, shown, ?_⟩
    rintro ⟨⟩

theorem ofMathAnswer_of_result {answer : MathAnswer} {result : Json}
    (some : answer.result = some result) (present : result ≠ .null) :
    ofMathAnswer answer = solved answer result := by
  unfold ofMathAnswer
  rw [some]
  cases result <;> first | rfl | exact absurd rfl present

theorem ofMathAnswer_of_no_result {answer : MathAnswer}
    (none : answer.result = none ∨ answer.result = some .null) :
    ofMathAnswer answer =
      { content :=
          if answer.error.getD "" = "" then calculationFailure else answer.error.getD "" } := by
  have said : ofMathAnswer answer = unsolved answer := by
    unfold ofMathAnswer
    rcases none with none | null
    · rw [none]
    · rw [null]
  rw [said, unsolved]
  cases answer.error with
  | none => rfl
  | some error => simp [String.isEmpty_iff]

/-- The reply shows an integer of one word in its digits and a text in its characters. It is the
same whether a small integer has a fraction of zero or none. Without a result nothing but the error
counts. -/
theorem ofMathAnswer_of_read? {body : List Char} {answer : MathAnswer}
    (read : MathAnswer.read? body = some answer) :
    ∃ result others, Holds body result others ∧
      (∀ number : Int, -2 ^ 63 ≤ number → number < 2 ^ 64 → IsWritten (toString number) result →
        ofMathAnswer answer =
          { content := answer.explanation.getD "" ++ "\n\nОтвет: " ++ toString number ++
              stepsText answer.steps }) ∧
      (∀ number : Int, number.natAbs < 10 ^ 15 →
        IsWritten (toString number) result ∨ IsWritten (toString number ++ ".0") result →
        ∀ other result', Holds other result' others →
          IsWritten (toString number) result' ∨ IsWritten (toString number ++ ".0") result' →
          (MathAnswer.read? other).map ofMathAnswer = some (ofMathAnswer answer)) ∧
      (∀ symbols, result = some (.string symbols) →
        ∃ text, Json.symbolText? symbols = some text ∧
          ofMathAnswer answer =
            { content := answer.explanation.getD "" ++ "\n\nОтвет: " ++ text ++
                stepsText answer.steps }) ∧
      (result = none ∨ result = some .null →
        ofMathAnswer answer =
          { content :=
              if answer.error.getD "" = "" then calculationFailure
              else answer.error.getD "" }) := by
  obtain ⟨result, explanation, steps, error, holds, resultRead, explanationRead, stepsRead,
    errorRead⟩ := MathAnswer.read?_eq_some_iff.mp read
  refine ⟨result, _, holds, ?_, ?_, ?_, ?_⟩
  · intro number least most written
    have value := MathAnswer.value_of_isWritten least most written
    rw [resultRead, Option.some_inj] at value
    rw [ofMathAnswer_of_result value (by rintro ⟨⟩), solved, resultText, Json.text, Json.compact,
      Json.ofList_integerText]
    all_goals rintro _ ⟨⟩
  · intro number small written other result' holdsOther writtenOther
    obtain ⟨value, fieldRead, shown, present⟩ := resultText_of_isWritten small written
    obtain ⟨value', fieldRead', shown', present'⟩ := resultText_of_isWritten small writtenOther
    rw [resultRead, Option.some_inj] at fieldRead
    have readOther : MathAnswer.read? other = some { answer with result := some value' } :=
      MathAnswer.read?_eq_some_iff.mpr ⟨result', explanation, steps, error, holdsOther, fieldRead',
        explanationRead, stepsRead, errorRead⟩
    rw [readOther, Option.map_some, ofMathAnswer_of_result fieldRead present,
      ofMathAnswer_of_result rfl present', solved, solved, shown, shown']
  · rintro symbols rfl
    obtain ⟨text, spelled, same⟩ : ∃ text, Json.symbolText? symbols = some text ∧
        answer.result = some (.string text) := by
      rw [Document.optional?, Document.value?] at resultRead
      · cases spelled : Json.symbolText? symbols with
        | none => simp [spelled] at resultRead
        | some text =>
            rw [spelled] at resultRead
            exact ⟨text, rfl, (Option.some.inj resultRead).symm⟩
      · rintro ⟨⟩
    refine ⟨text, spelled, ?_⟩
    rw [ofMathAnswer_of_result same (by rintro ⟨⟩), solved, resultText]
  · intro missing
    apply ofMathAnswer_of_no_result
    rcases missing with rfl | rfl
    · exact .inl (Option.some.inj resultRead).symm
    · exact .inl (Option.some.inj resultRead).symm

theorem ofMathAnswer_of_read?_fraction :
    let body := "\x7b\"result\":-999999999999999,\"steps\":[\"x\"]\x7d".toList
    let other := "\x7b\"steps\":[\"x\"],\"result\":-999999999999999.0\x7d".toList
    let answer : MathAnswer := { result := some (.integer (-999999999999999)), steps := ["x"] }
    MathAnswer.read? body = some answer ∧
      ofMathAnswer answer = { content := "\n\nОтвет: -999999999999999\n\nРешение:\nx" } ∧
      (MathAnswer.read? other).map ofMathAnswer = some (ofMathAnswer answer) := by
  intro body other answer
  let steps : Document := .array [.string [.char 'x']]
  have read : MathAnswer.read? body = some answer := rfl
  have whole : Holds body (some (.ofJson (.integer (-999999999999999)))) [none, some steps, none] :=
    ⟨_, rfl, rfl⟩
  obtain ⟨result, others, holds, shown, alike, _⟩ := ofMathAnswer_of_read? read
  obtain ⟨rfl, rfl⟩ := holds.unique whole
  have written := MathAnswer.isWritten_integer_iff.mpr
    (show some (.ofJson (.integer (-999999999999999))) = _ from rfl)
  refine ⟨read, ?_, alike _ (by decide) (.inl written) other _ ⟨_, rfl, rfl⟩
    (.inr (MathAnswer.isWritten_point_iff.mpr rfl))⟩
  rw [shown _ (by decide) (by decide) written]
  rfl

end Reply

end ChatAssistant
