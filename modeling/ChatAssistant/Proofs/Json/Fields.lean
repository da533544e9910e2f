import ChatAssistant.Proofs.Json.Compact

/-!
Fields of records. A field is read as the value that was written of it, and a record has the fields
it was written with.
-/

namespace ChatAssistant.Json

namespace Numeral

theorem real?_ne_integer (numeral : Numeral) (value : Int) :
    numeral.real? ≠ some (.integer value) := by
  intro same
  simp only [real?] at same
  split at same
  · cases same
  · cases same

theorem value?_lt {numeral : Numeral} {number : Nat}
    (read : numeral.value? = some (.integer number)) : number < UInt64.size := by
  simp only [value?] at read
  split at read
  · exact (numeral.real?_ne_integer _ read).elim
  · split at read
    · split at read
      · rename_i bounds
        simp only [Option.some.injEq, Json.integer.injEq] at read
        omega
      · exact (numeral.real?_ne_integer _ read).elim
    · split at read
      · rename_i fits
        simp only [Option.some.injEq, Json.integer.injEq] at read
        omega
      · exact (numeral.real?_ne_integer _ read).elim

end Numeral

namespace Document

@[simp]
theorem text?_ofJson (text : String) : (ofJson (.string text)).text? = some text := by
  simp [ofJson, text?, ofText]

theorem natural?_ofJson {number : Nat} (fits : number < UInt64.size) :
    (ofJson (.integer number)).natural? = some number := by
  have unsigned : ¬(number : Int) < 0 := by omega
  simp [ofJson, natural?, Numeral.value?, unsigned, fits]

theorem natural?_lt {document : Document} {number : Nat} (read : document.natural? = some number) :
    number < UInt64.size := by
  unfold natural? at read
  split at read
  · split at read
    · rename_i value
      cases read
      exact Numeral.value?_lt value
    · cases read
  · cases read

theorem list?_ofJson {α : Type} {item? : Document → Option α} {toJson : α → Json} {values : List α}
    (each : ∀ value ∈ values, item? (ofJson (toJson value)) = some value) :
    list? item? (ofJson (.array (values.map toJson))) = some values := by
  rw [ofJson, list?]
  induction values with
  | nil => rfl
  | cons value values ih =>
      have first := each value List.mem_cons_self
      have others := ih fun other member => each other (List.mem_cons_of_mem value member)
      simp only [List.map_cons, ofItems, List.mapM_cons, first, others]
      rfl

theorem ofMembers_named (members : List (String × Json)) :
    (ofMembers members).mapM (fun member => do return (← symbolText? member.1, member.2)) =
      some (members.map fun member => (member.1, ofJson member.2)) := by
  induction members with
  | nil => rfl
  | cons member members ih =>
      simp only [ofMembers, List.mapM_cons, ofText, symbolText?_written, ih]
      rfl

@[simp]
theorem fields?_ofJson (names : List String) (members : List (String × Json)) :
    (ofJson (.object members)).fields? names =
      names.mapM (memberNamed? (members.map fun member => (member.1, ofJson member.2))) := by
  rw [ofJson, fields?, ofMembers_named]
  rfl

end Document

end ChatAssistant.Json
