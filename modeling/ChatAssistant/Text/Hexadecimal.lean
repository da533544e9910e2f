/-!
Hexadecimal digits.
-/

namespace ChatAssistant.Text

def hexValue? (char : Char) : Option Nat :=
  if char.isDigit then some (char.toNat - '0'.toNat)
  else if 'a' ≤ char ∧ char ≤ 'f' then some (char.toNat - 'a'.toNat + 10)
  else if 'A' ≤ char ∧ char ≤ 'F' then some (char.toNat - 'A'.toNat + 10)
  else none

def upperHexDigit (digit : Nat) : Char :=
  if digit < 10 then Char.ofNat ('0'.toNat + digit) else Char.ofNat ('A'.toNat + (digit - 10))

/-- The number that digits of a base are, if all of them are below the base. -/
def numberInBase? (base : Nat) (digits : List Char) : Option Nat :=
  digits.foldlM
    (fun number char => do
      let digit ← hexValue? char
      if digit < base then some (number * base + digit) else none)
    0

end ChatAssistant.Text
