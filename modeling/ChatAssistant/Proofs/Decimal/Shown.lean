import ChatAssistant.Decimal.FloatText
import ChatAssistant.Proofs.Decimal.Digits

/-!
The characters of a number as it is shown to the reader.
-/

namespace ChatAssistant.Decimal

def IsNumberCharacter (char : Char) : Prop :=
  char.isDigit = true ∨ char = '.' ∨ char = '-'

theorem forall_mem_digits (number : Nat) : ∀ char ∈ digits number, IsNumberCharacter char :=
  fun _ member => Or.inl (isDigit_of_mem_digits member)

theorem forall_mem_zeros (count : Nat) : ∀ char ∈ zeros count, IsNumberCharacter char :=
  fun _ member => Or.inl (isDigit_of_mem_zeros member)

theorem forall_mem_plain (decimal : Decimal) :
    ∀ char ∈ decimal.plain, IsNumberCharacter char := by
  have digitsOf := forall_mem_digits decimal.coefficient
  have point : IsNumberCharacter '.' := Or.inr (Or.inl rfl)
  unfold plain
  dsimp only
  split
  · exact List.forall_mem_append.mpr ⟨digitsOf, forall_mem_zeros _⟩
  · split
    · rw [List.forall_mem_append, List.forall_mem_cons]
      refine ⟨?_, point, ?_⟩
      · intro char member
        exact digitsOf char (List.mem_of_mem_take member)
      · intro char member
        exact digitsOf char (List.mem_of_mem_drop member)
    · have zero : IsNumberCharacter '0' := Or.inl rfl
      rw [List.forall_mem_append, List.forall_mem_cons, List.forall_mem_cons]
      exact ⟨⟨zero, point, forall_mem_zeros _⟩, digitsOf⟩

theorem forall_mem_signed (sign : Float.Model.UnpackedFloat.Sign) {text : List Char}
    (characters : ∀ char ∈ text, IsNumberCharacter char) :
    ∀ char ∈ signed sign text, IsNumberCharacter char := by
  cases sign with
  | positive => exact characters
  | negative => exact List.forall_mem_cons.mpr ⟨Or.inr (Or.inr rfl), characters⟩

theorem forall_mem_plainText {number : Float} (finite : number.isFinite = true) :
    ∀ char ∈ plainText number, IsNumberCharacter char := by
  unfold Float.isFinite Float.Model.isFinite at finite
  unfold plainText
  cases unpacked : number.toModel.unpack with
  | notANumber =>
      rw [unpacked] at finite
      cases finite
  | infinity sign =>
      rw [unpacked] at finite
      cases finite
  | zero sign => exact forall_mem_signed sign (List.forall_mem_singleton.mpr (Or.inl rfl))
  | finite sign significand exponent positive => exact forall_mem_signed sign (forall_mem_plain _)

theorem forall_mem_shownInteger {number : Float} {text : List Char}
    (integer : shownInteger? number = some text) : ∀ char ∈ text, IsNumberCharacter char := by
  unfold shownInteger? at integer
  split at integer
  · cases integer
    exact List.forall_mem_singleton.mpr (Or.inl rfl)
  · split at integer
    · split at integer
      · cases integer
        exact forall_mem_signed _ (forall_mem_digits _)
      · cases integer
    · cases integer
  · cases integer

theorem forall_mem_shown {number : Float} (finite : number.isFinite = true) :
    ∀ char ∈ shown number, IsNumberCharacter char := by
  unfold shown
  cases integer : shownInteger? number with
  | none => exact forall_mem_plainText finite
  | some text => exact forall_mem_shownInteger integer

end ChatAssistant.Decimal
