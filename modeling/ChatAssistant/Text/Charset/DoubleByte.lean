import ChatAssistant.Text.Charset.Fault

/-!
Character sets in which some bytes are characters and others lead a pair that is one.
-/

namespace ChatAssistant.Text.Charset

structure DoubleByteCode where
  single? : UInt8 → Option Char
  isLead : UInt8 → Bool
  /-- The characters of a pair. There may be two: a letter and its accent. -/
  pair? : UInt8 → UInt8 → Option (List Char)

def asciiCharacter? (byte : UInt8) : Option Char :=
  if isAscii byte then some (Char.ofNat byte.toNat) else none

/-- A pair that is no character is one fault; a second byte from ASCII is read again after
it. -/
def DoubleByteCode.decode (code : DoubleByteCode) : List UInt8 → List Char
  | [] => []
  | [byte] => [(code.single? byte).getD fault]
  | byte :: next :: bytes =>
      match code.single? byte with
      | some char => char :: code.decode (next :: bytes)
      | none =>
          if code.isLead byte then
            match code.pair? byte next with
            | some chars => chars ++ code.decode bytes
            | none =>
                if isAscii next then fault :: code.decode (next :: bytes)
                else fault :: code.decode bytes
          else fault :: code.decode (next :: bytes)

end ChatAssistant.Text.Charset
