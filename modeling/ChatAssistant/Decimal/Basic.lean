/-!
Decimals and their digits. A decimal is a whole number of units, each a power of ten.
-/

namespace ChatAssistant

/-- The number `coefficient × 10 ^ exponent`. -/
structure Decimal where
  coefficient : Nat
  exponent : Int
  deriving DecidableEq, Repr

namespace Decimal

/-- The decimal digits of a number, highest first. -/
def digits (number : Nat) : List Char :=
  Nat.toDigits 10 number

def zeros (count : Nat) : List Char :=
  List.replicate count '0'

/-- The value of a digit; other characters count as nothing. -/
def digitValue (char : Char) : Nat :=
  if char.isDigit then char.toNat - '0'.toNat else 0

def ofDigits (text : List Char) : Nat :=
  text.foldl (fun number char => number * 10 + digitValue char) 0

/-- Reads digits with at most one point among them; a digit is needed on one side of it. -/
def ofNumeral? (text : List Char) : Option Decimal :=
  let whole := text.takeWhile (· ≠ '.')
  let fraction := (text.dropWhile (· ≠ '.')).drop 1
  if (whole ++ fraction).all Char.isDigit && !(whole ++ fraction).isEmpty then
    some ⟨ofDigits (whole ++ fraction), -fraction.length⟩
  else none

/-- Digits and a point without an exponent: a fraction is there only if it is needed, and a
number below one has a single zero before the point. -/
def plain (decimal : Decimal) : List Char :=
  let shown := digits decimal.coefficient
  if 0 ≤ decimal.exponent then shown ++ zeros decimal.exponent.toNat
  else
    let places := (-decimal.exponent).toNat
    if places < shown.length then
      shown.take (shown.length - places) ++ '.' :: shown.drop (shown.length - places)
    else '0' :: '.' :: zeros (places - shown.length) ++ shown

def leadingExponent (decimal : Decimal) : Int :=
  (digits decimal.coefficient).length - 1 + decimal.exponent

/-- One digit, then a point and the other digits if there are any, then a signed exponent. -/
def scientific (decimal : Decimal) : List Char :=
  let power := decimal.leadingExponent
  let mantissa : List Char :=
    match digits decimal.coefficient with
    | [] => []
    | [digit] => [digit]
    | digit :: more => digit :: '.' :: more
  let sign : Char := if power < 0 then '-' else '+'
  mantissa ++ 'e' :: sign :: digits power.natAbs

end Decimal

end ChatAssistant
