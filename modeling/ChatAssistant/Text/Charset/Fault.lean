/-!
The character that stands for bytes that are none.
-/

namespace ChatAssistant.Text.Charset

def fault : Char := '\uFFFD'

def isAscii (byte : UInt8) : Bool :=
  byte.toNat < 0x80

def isWithin (first last : Nat) (byte : UInt8) : Bool :=
  first ≤ byte.toNat && byte.toNat ≤ last

/-- Bytes that are no text in any way are one fault together. -/
def decodeReplaced (bytes : List UInt8) : List Char :=
  if bytes.isEmpty then [] else [fault]

end ChatAssistant.Text.Charset
