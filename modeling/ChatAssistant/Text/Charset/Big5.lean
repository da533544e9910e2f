import ChatAssistant.Text.Charset.DoubleByte
import ChatAssistant.Text.Charset.Rows.Big5

/-!
Chinese text in the pairs of bytes of Big5.
-/

namespace ChatAssistant.Text.Charset

def accentedLetter? (lead trail : UInt8) : Option (List Char) :=
  if lead ≠ 0x88 then none
  else if trail = 0x62 then some ['Ê', '\u0304']
  else if trail = 0x64 then some ['Ê', '\u030C']
  else if trail = 0xA3 then some ['ê', '\u0304']
  else if trail = 0xA5 then some ['ê', '\u030C']
  else none

def big5Column? (trail : UInt8) : Option Nat :=
  if isWithin 0x40 0x7E trail then some (trail.toNat - 0x40)
  else if isWithin 0xA1 0xFE trail then some (trail.toNat - 0x62)
  else none

def big5Pair? (lead trail : UInt8) : Option (List Char) :=
  (accentedLetter? lead trail).or do
    let char ← big5Rows.at? (lead.toNat - 0x81) (← big5Column? trail)
    return [char]

def big5Code : DoubleByteCode where
  single? := asciiCharacter?
  isLead := isWithin 0x81 0xFE
  pair? := big5Pair?

def decodeBig5 (bytes : List UInt8) : List Char :=
  big5Code.decode bytes

end ChatAssistant.Text.Charset
