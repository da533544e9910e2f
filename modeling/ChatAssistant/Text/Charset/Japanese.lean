import ChatAssistant.Text.Charset.DoubleByte
import ChatAssistant.Text.Charset.Rows.Jis0208
import ChatAssistant.Text.Charset.Rows.Jis0212

/-!
Japanese text in three forms: pairs of bytes, up to three bytes, and bytes of seven bits with
escapes that tell what they are.
-/

namespace ChatAssistant.Text.Charset

/-- The halfwidth katakana, from the number of the first of them. -/
def halfwidthKatakana (first : Nat) (byte : UInt8) : Char :=
  Char.ofNat (0xFF61 + (byte.toNat - first))

def shiftJisSingle? (byte : UInt8) : Option Char :=
  if byte.toNat ≤ 0x80 then some (Char.ofNat byte.toNat)
  else if isWithin 0xA1 0xDF byte then some (halfwidthKatakana 0xA1 byte)
  else none

def shiftJisPlace? (lead trail : UInt8) : Option Nat :=
  let row := if lead.toNat < 0xA0 then lead.toNat - 0x81 else lead.toNat - 0xC1
  if isWithin 0x40 0x7E trail then some (row * 188 + (trail.toNat - 0x40))
  else if isWithin 0x80 0xFC trail then some (row * 188 + (trail.toNat - 0x41))
  else none

/-- Some places are an area for private use. -/
def shiftJisPair? (lead trail : UInt8) : Option (List Char) := do
  let place ← shiftJisPlace? lead trail
  if 8836 ≤ place ∧ place ≤ 10715 then return [Char.ofNat (0xE000 + (place - 8836))]
  else return [← jis0208.nth? 94 place]

def shiftJisCode : DoubleByteCode where
  single? := shiftJisSingle?
  isLead byte := isWithin 0x81 0x9F byte || isWithin 0xE0 0xFC byte
  pair? := shiftJisPair?

def decodeShiftJis (bytes : List UInt8) : List Char :=
  shiftJisCode.decode bytes

def isEucByte (byte : UInt8) : Bool :=
  isWithin 0xA1 0xFE byte

def eucCharacter? (table : CodeTable) (first second : UInt8) : Option Char :=
  if isEucByte first && isEucByte second then
    table.at? (first.toNat - 0xA1) (second.toNat - 0xA1)
  else none

def eucJpPair? (lead trail : UInt8) : Option (List Char) :=
  if lead = 0x8E then
    if isWithin 0xA1 0xDF trail then some [halfwidthKatakana 0xA1 trail] else none
  else (eucCharacter? jis0208 lead trail).map fun char => [char]

def eucJpCode : DoubleByteCode where
  single? := asciiCharacter?
  isLead byte := byte = 0x8E || byte = 0x8F || isEucByte byte
  pair? := eucJpPair?

/-- The byte 8F stands before a pair of the supplementary table. -/
def decodeEucJp : List UInt8 → List Char
  | [] => []
  | [byte] => [(asciiCharacter? byte).getD fault]
  | [byte, next] => eucJpCode.decode [byte, next]
  | byte :: next :: last :: bytes =>
      if byte = 0x8F && isEucByte next then
        match eucCharacter? jis0212 next last with
        | some char => char :: decodeEucJp bytes
        | none =>
            if isAscii last then fault :: decodeEucJp (last :: bytes)
            else fault :: decodeEucJp bytes
      else
        match asciiCharacter? byte with
        | some char => char :: decodeEucJp (next :: last :: bytes)
        | none =>
            if eucJpCode.isLead byte then
              match eucJpPair? byte next with
              | some chars => chars ++ decodeEucJp (last :: bytes)
              | none =>
                  if isAscii next then fault :: decodeEucJp (next :: last :: bytes)
                  else fault :: decodeEucJp (last :: bytes)
            else fault :: decodeEucJp (next :: last :: bytes)

inductive Iso2022JpMode where
  | ascii
  | roman
  | katakana
  | pairs
  deriving DecidableEq, Repr

def Iso2022JpMode.ofEscape? (first second : UInt8) : Option Iso2022JpMode :=
  if first = 0x28 then
    if second = 0x42 then some .ascii
    else if second = 0x4A then some .roman
    else if second = 0x49 then some .katakana
    else none
  else if first = 0x24 && (second = 0x40 || second = 0x42) then some .pairs
  else none

def Iso2022JpMode.single (mode : Iso2022JpMode) (byte : UInt8) : Char :=
  match mode with
  | .katakana => if isWithin 0x21 0x5F byte then halfwidthKatakana 0x21 byte else fault
  | _ =>
      if mode = .roman && byte = 0x5C then '¥'
      else if mode = .roman && byte = 0x7E then '‾'
      else if isAscii byte && byte ≠ 0x0E && byte ≠ 0x0F then Char.ofNat byte.toNat
      else fault

def jisPair (first second : UInt8) : Char :=
  (jis0208.at? (first.toNat - 0x21) (second.toNat - 0x21)).getD fault

/-- Two escapes with nothing between them are a fault; `isFresh` says that an escape has just
been read. -/
def decodeIso2022JpFrom (mode : Iso2022JpMode) (isFresh : Bool) : List UInt8 → List Char
  | [] => []
  | byte :: bytes =>
      if byte = 0x1B then
        match bytes with
        | first :: second :: rest =>
            match Iso2022JpMode.ofEscape? first second with
            | some mode =>
                if isFresh then fault :: decodeIso2022JpFrom mode true rest
                else decodeIso2022JpFrom mode true rest
            | none => fault :: decodeIso2022JpFrom mode false (first :: second :: rest)
        | rest => fault :: decodeIso2022JpFrom mode false rest
      else if mode = .pairs then
        if isWithin 0x21 0x7E byte then
          match bytes with
          | [] => [fault]
          | next :: rest =>
              if next = 0x1B then fault :: decodeIso2022JpFrom mode false (next :: rest)
              else if isWithin 0x21 0x7E next then
                jisPair byte next :: decodeIso2022JpFrom mode false rest
              else fault :: decodeIso2022JpFrom mode false rest
        else fault :: decodeIso2022JpFrom mode false bytes
      else mode.single byte :: decodeIso2022JpFrom mode false bytes

def decodeIso2022Jp (bytes : List UInt8) : List Char :=
  decodeIso2022JpFrom .ascii false bytes

end ChatAssistant.Text.Charset
