/-!
Sets of characters and shifts of characters, given by ascending ranges of code points.
-/

namespace ChatAssistant.Text

/-- Ranges of code points, both ends included, in ascending order. -/
abbrev CodePoints := List (Nat × Nat)

/-- The search ends at the first range that starts beyond the code point. -/
def CodePoints.covers : CodePoints → Nat → Bool
  | [], _ => false
  | (first, last) :: ranges, code =>
      if code < first then false
      else code ≤ last || CodePoints.covers ranges code

def CodePoints.has (ranges : CodePoints) (char : Char) : Bool :=
  ranges.covers char.toNat

/-- Every `step`-th code point from `first` to `last` moves by the distance from `first` to
`image`. -/
structure CodePointShift where
  first : Nat
  last : Nat
  step : Nat
  image : Nat

def CodePointShift.image? (shift : CodePointShift) (code : Nat) : Option Nat :=
  if shift.first ≤ code ∧ code ≤ shift.last ∧ (code - shift.first) % shift.step = 0 then
    some (shift.image + (code - shift.first))
  else none

/-- The image of a character under the shifts; a character outside them stays. -/
def shiftCodePoint (shifts : List CodePointShift) (char : Char) : Char :=
  match shifts.findSome? (fun shift => shift.image? char.toNat) with
  | some code => Char.ofNat code
  | none => char

end ChatAssistant.Text
