import ChatAssistant.Decimal.Shortest

/-!
Floating-point numbers as text, and decimals as floating-point numbers.
-/

namespace ChatAssistant.Decimal

open Float.Model.UnpackedFloat (Sign)

def signed (sign : Sign) (text : List Char) : List Char :=
  match sign with
  | .positive => text
  | .negative => '-' :: text

/-- The fewest digits that read back, without an exponent; the larger of two equally near
decimals is taken. -/
def plainText (number : Float) : List Char :=
  match number.toModel.unpack with
  | .notANumber => ['N', 'a', 'N']
  | .infinity sign => signed sign ['i', 'n', 'f']
  | .zero sign => signed sign ['0']
  | .finite sign significand exponent _ =>
      signed sign (plain (Double.shortest ⟨significand, exponent⟩ .up))

def Double.whole? (double : Double) : Option Nat :=
  if 0 ≤ double.exponent then some (double.significand * Nat.pow 2 double.exponent.toNat)
  else
    let unit := Nat.pow 2 (-double.exponent).toNat
    if double.significand % unit = 0 then some (double.significand / unit) else none

def integerLimit : Nat := 1000000000000000

def shownInteger? (number : Float) : Option (List Char) :=
  match number.toModel.unpack with
  | .zero _ => some ['0']
  | .finite sign significand exponent _ =>
      match Double.whole? ⟨significand, exponent⟩ with
      | some whole => if whole < integerLimit then some (signed sign (digits whole)) else none
      | none => none
  | _ => none

/-- A number as it is shown to the reader: an integer below the limit as its digits, with no
sign on zero, and any other number in its plain text. -/
def shown (number : Float) : List Char :=
  (shownInteger? number).getD (plainText number)

/-- The number nearest to a decimal; infinite when the decimal is too large. -/
def toFloat (decimal : Decimal) : Float :=
  Float.ofModel (Float.Model.ofScientific decimal.coefficient decimal.exponent)

end ChatAssistant.Decimal
