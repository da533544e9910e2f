import ChatAssistant.Text.Charset.Fault
import ChatAssistant.Text.Charset.Rows.Chinese

/-!
Chinese text in one, two or four bytes for each character. Four bytes reach every character
that two do not.
-/

namespace ChatAssistant.Text.Charset

/-- Runs of characters in four bytes: the place of the first one, and its code point. -/
def fourByteRuns : List (Nat × Nat) :=
  [ (0, 0x0080), (36, 0x00A5), (38, 0x00A9), (45, 0x00B2), (50, 0x00B8), (81, 0x00D8),
    (89, 0x00E2), (95, 0x00EB), (96, 0x00EE), (100, 0x00F4), (103, 0x00F8), (104, 0x00FB),
    (105, 0x00FD), (109, 0x0102), (126, 0x0114), (133, 0x011C), (148, 0x012C), (172, 0x0145),
    (175, 0x0149), (179, 0x014E), (208, 0x016C), (306, 0x01CF), (307, 0x01D1), (308, 0x01D3),
    (309, 0x01D5), (310, 0x01D7), (311, 0x01D9), (312, 0x01DB), (313, 0x01DD), (341, 0x01FA),
    (428, 0x0252), (443, 0x0262), (544, 0x02C8), (545, 0x02CC), (558, 0x02DA), (741, 0x03A2),
    (742, 0x03AA), (749, 0x03C2), (750, 0x03CA), (805, 0x0402), (819, 0x0450), (820, 0x0452),
    (7922, 0x2011), (7924, 0x2017), (7925, 0x201A), (7927, 0x201E), (7934, 0x2027),
    (7943, 0x2031), (7944, 0x2034), (7945, 0x2036), (7950, 0x203C), (8062, 0x20AD),
    (8148, 0x2104), (8149, 0x2106), (8152, 0x210A), (8164, 0x2117), (8174, 0x2122),
    (8236, 0x216C), (8240, 0x217A), (8262, 0x2194), (8264, 0x219A), (8374, 0x2209),
    (8380, 0x2210), (8381, 0x2212), (8384, 0x2216), (8388, 0x221B), (8390, 0x2221),
    (8392, 0x2224), (8393, 0x2226), (8394, 0x222C), (8396, 0x222F), (8401, 0x2238),
    (8406, 0x223E), (8416, 0x2249), (8419, 0x224D), (8424, 0x2253), (8437, 0x2262),
    (8439, 0x2268), (8445, 0x2270), (8482, 0x2296), (8485, 0x229A), (8496, 0x22A6),
    (8521, 0x22C0), (8603, 0x2313), (8936, 0x246A), (8946, 0x249C), (9046, 0x254C),
    (9050, 0x2574), (9063, 0x2590), (9066, 0x2596), (9076, 0x25A2), (9092, 0x25B4),
    (9100, 0x25BE), (9108, 0x25C8), (9111, 0x25CC), (9113, 0x25D0), (9131, 0x25E6),
    (9162, 0x2607), (9164, 0x260A), (9218, 0x2641), (9219, 0x2643), (11329, 0x2E82),
    (11331, 0x2E85), (11334, 0x2E89), (11336, 0x2E8D), (11346, 0x2E98), (11361, 0x2EA8),
    (11363, 0x2EAB), (11366, 0x2EAF), (11370, 0x2EB4), (11372, 0x2EB8), (11375, 0x2EBC),
    (11389, 0x2ECB), (11682, 0x2FFC), (11686, 0x3004), (11687, 0x3018), (11692, 0x301F),
    (11694, 0x302A), (11714, 0x303F), (11716, 0x3094), (11723, 0x309F), (11725, 0x30F7),
    (11730, 0x30FF), (11736, 0x312A), (11982, 0x322A), (11989, 0x3232), (12102, 0x32A4),
    (12336, 0x3390), (12348, 0x339F), (12350, 0x33A2), (12384, 0x33C5), (12393, 0x33CF),
    (12395, 0x33D3), (12397, 0x33D6), (12510, 0x3448), (12553, 0x3474), (12851, 0x359F),
    (12962, 0x360F), (12973, 0x361B), (13738, 0x3919), (13823, 0x396F), (13919, 0x39D1),
    (13933, 0x39E0), (14080, 0x3A74), (14298, 0x3B4F), (14585, 0x3C6F), (14698, 0x3CE1),
    (15583, 0x4057), (15847, 0x4160), (16318, 0x4338), (16434, 0x43AD), (16438, 0x43B2),
    (16481, 0x43DE), (16729, 0x44D7), (17102, 0x464D), (17122, 0x4662), (17315, 0x4724),
    (17320, 0x472A), (17402, 0x477D), (17418, 0x478E), (17859, 0x4948), (17909, 0x497B),
    (17911, 0x497E), (17915, 0x4984), (17916, 0x4987), (17936, 0x499C), (17939, 0x49A0),
    (17961, 0x49B8), (18664, 0x4C78), (18703, 0x4CA4), (18814, 0x4D1A), (18962, 0x4DAF),
    (19043, 0x9FA6), (33469, 0xE76C), (33470, 0xE7C8), (33471, 0xE7E7), (33484, 0xE815),
    (33485, 0xE819), (33490, 0xE81F), (33497, 0xE827), (33501, 0xE82D), (33505, 0xE833),
    (33513, 0xE83C), (33520, 0xE844), (33536, 0xE856), (33550, 0xE865), (37845, 0xF92D),
    (37921, 0xF97A), (37948, 0xF996), (38029, 0xF9E8), (38038, 0xF9F2), (38064, 0xFA10),
    (38065, 0xFA12), (38066, 0xFA15), (38069, 0xFA19), (38075, 0xFA22), (38076, 0xFA25),
    (38078, 0xFA2A), (39108, 0xFE32), (39109, 0xFE45), (39113, 0xFE53), (39114, 0xFE58),
    (39115, 0xFE67), (39116, 0xFE6C), (39265, 0xFF5F), (39394, 0xFFE6), (189000, 0x10000)]

def lastPlaceOfFirstPlane : Nat := 39419

def firstPlaceBeyond : Nat := 189000

def lastPlace : Nat := 1237575

/-- The character at a place of the four-byte codes. One place lies outside the order of its
neighbours. -/
def fourByteCharacter? (place : Nat) : Option Char :=
  if (lastPlaceOfFirstPlane < place ∧ place < firstPlaceBeyond) ∨ lastPlace < place then none
  else if place = 7457 then some '\ue7c7'
  else
    (fourByteRuns.filter (·.1 ≤ place)).getLast?.map fun (first, code) =>
      Char.ofNat (code + (place - first))

def isFourByteDigit (byte : UInt8) : Bool :=
  isWithin 0x30 0x39 byte

def isChineseLead (byte : UInt8) : Bool :=
  isWithin 0x81 0xFE byte

def fourBytes? (first second third fourth : UInt8) : Option Char :=
  fourByteCharacter? ((((first.toNat - 0x81) * 10 + (second.toNat - 0x30)) * 126 +
    (third.toNat - 0x81)) * 10 + (fourth.toNat - 0x30))

def chineseColumn? (trail : UInt8) : Option Nat :=
  if isWithin 0x40 0x7E trail then some (trail.toNat - 0x40)
  else if isWithin 0x80 0xFE trail then some (trail.toNat - 0x41)
  else none

def privateUse? (lead trail : UInt8) (column : Nat) : Option Char :=
  if isWithin 0xAA 0xAF lead && isWithin 0xA1 0xFE trail then
    some (Char.ofNat (0xE000 + (lead.toNat - 0xAA) * 94 + (trail.toNat - 0xA1)))
  else if isWithin 0xF8 0xFE lead && isWithin 0xA1 0xFE trail then
    some (Char.ofNat (0xE234 + (lead.toNat - 0xF8) * 94 + (trail.toNat - 0xA1)))
  else if isWithin 0xA1 0xA7 lead && isWithin 0x40 0xA0 trail then
    some (Char.ofNat (0xE4C6 + (lead.toNat - 0xA1) * 96 + column))
  else none

def chinesePair? (lead trail : UInt8) : Option Char := do
  let column ← chineseColumn? trail
  (chineseRows.at? (lead.toNat - 0x81) column).or (privateUse? lead trail column)

/-- Bytes that are no character are one fault. What follows the first of them is read again if
it began a code of four bytes, or if it is from ASCII. -/
def decodeChinese : List UInt8 → List Char
  | [] => []
  | byte :: bytes =>
      if isAscii byte then Char.ofNat byte.toNat :: decodeChinese bytes
      else if byte = 0x80 then '€' :: decodeChinese bytes
      else if isChineseLead byte then
        match bytes with
        | [] => [fault]
        | second :: rest =>
            if isFourByteDigit second then
              match rest with
              | [] => [fault]
              | third :: rest =>
                  if isChineseLead third then
                    match rest with
                    | [] => [fault]
                    | fourth :: rest =>
                        if isFourByteDigit fourth then
                          (fourBytes? byte second third fourth).getD fault :: decodeChinese rest
                        else fault :: decodeChinese (second :: third :: fourth :: rest)
                  else fault :: decodeChinese (second :: third :: rest)
            else
              match chinesePair? byte second with
              | some char => char :: decodeChinese rest
              | none =>
                  if isAscii second then fault :: decodeChinese (second :: rest)
                  else fault :: decodeChinese rest
      else fault :: decodeChinese bytes

end ChatAssistant.Text.Charset
