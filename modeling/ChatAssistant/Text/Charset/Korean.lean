import ChatAssistant.Text.Charset.DoubleByte
import ChatAssistant.Text.Charset.Rows.Korean

/-!
Korean text in pairs of bytes.
-/

namespace ChatAssistant.Text.Charset

def koreanPair? (lead trail : UInt8) : Option (List Char) :=
  if isWithin 0x41 0xFE trail then
    (koreanRows.at? (lead.toNat - 0x81) (trail.toNat - 0x41)).map fun char => [char]
  else none

def koreanCode : DoubleByteCode where
  single? := asciiCharacter?
  isLead := isWithin 0x81 0xFE
  pair? := koreanPair?

def decodeKorean (bytes : List UInt8) : List Char :=
  koreanCode.decode bytes

end ChatAssistant.Text.Charset
