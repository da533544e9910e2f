import ChatAssistant.Text.Charset.Fault

/-!
Character sets in which every byte is a character. They share the characters of ASCII.
-/

namespace ChatAssistant.Text.Charset

/-- Runs of characters, each with the byte of its first one. -/
abbrev SingleByteTable := List (Nat × String)

def SingleByteTable.at? (table : SingleByteTable) (code : Nat) : Option Char :=
  table.findSome? fun (first, run) =>
    if first ≤ code then run.toList[code - first]? else none

/-- A byte without a place in the table stands for the control character of its number, if
there is one. -/
def SingleByteTable.character (table : SingleByteTable) (byte : UInt8) : Char :=
  let code := byte.toNat
  if code < 0x80 then Char.ofNat code
  else
    match table.at? code with
    | some char => char
    | none => if code < 0xA0 then Char.ofNat code else fault

def SingleByteTable.decode (table : SingleByteTable) (bytes : List UInt8) : List Char :=
  bytes.map table.character

def ibm866 : SingleByteTable :=
  [ (0x80, "АБВГДЕЖЗИЙКЛМНОПРСТУФХЦЧШЩЪЫЬЭЮЯабвгдежзийклмноп"),
    (0xB0, "░▒▓│┤╡╢╖╕╣║╗╝╜╛┐└┴┬├─┼╞╟╚╔╩╦╠═╬╧╨╤╥╙╘╒╓╫╪┘┌█▄▌▐▀"),
    (0xE0, "рстуфхцчшщъыьэюяЁёЄєЇїЎў°∙·√№¤■\xa0")]

def iso8859Part2 : SingleByteTable :=
  [ (0xA0, "\xa0Ą˘Ł¤ĽŚ§¨ŠŞŤŹ\xadŽŻ°ą˛ł´ľśˇ¸šşťź˝žżŔÁÂĂÄĹĆÇČÉĘËĚÍÎĎ"),
    (0xD0, "ĐŃŇÓÔŐÖ×ŘŮÚŰÜÝŢßŕáâăäĺćçčéęëěíîďđńňóôőö÷řůúűüýţ˙")]

def iso8859Part3 : SingleByteTable :=
  [ (0xA0, "\xa0Ħ˘£¤"),
    (0xA6, "Ĥ§¨İŞĞĴ\xad"),
    (0xAF, "Ż°ħ²³´µĥ·¸ışğĵ½"),
    (0xBF, "żÀÁÂ"),
    (0xC4, "ÄĊĈÇÈÉÊËÌÍÎÏ"),
    (0xD1, "ÑÒÓÔĠÖ×ĜÙÚÛÜŬŜßàáâ"),
    (0xE4, "äċĉçèéêëìíîï"),
    (0xF1, "ñòóôġö÷ĝùúûüŭŝ˙")]

def iso8859Part4 : SingleByteTable :=
  [ (0xA0, "\xa0ĄĸŖ¤ĨĻ§¨ŠĒĢŦ\xadŽ¯°ą˛ŗ´ĩļˇ¸šēģŧŊžŋĀÁÂÃÄÅÆĮČÉĘËĖÍÎĪ"),
    (0xD0, "ĐŅŌĶÔÕÖ×ØŲÚÛÜŨŪßāáâãäåæįčéęëėíîīđņōķôõö÷øųúûüũū˙")]

def iso8859Part5 : SingleByteTable :=
  [ (0xA0, "\xa0ЁЂЃЄЅІЇЈЉЊЋЌ\xadЎЏАБВГДЕЖЗИЙКЛМНОПРСТУФХЦЧШЩЪЫЬЭЮЯ"),
    (0xD0, "абвгдежзийклмнопрстуфхцчшщъыьэюя№ёђѓєѕіїјљњћќ§ўџ")]

def iso8859Part6 : SingleByteTable :=
  [ (0xA0, "\xa0"),
    (0xA4, "¤"),
    (0xAC, "،\xad"),
    (0xBB, "؛"),
    (0xBF, "؟"),
    (0xC1, "ءآأؤإئابةتثجحخدذرزسشصضطظعغ"),
    (0xE0, "ـفقكلمنهوىي\u064b\u064c\u064d\u064e\u064f\u0650\u0651\u0652")]

def iso8859Part7 : SingleByteTable :=
  [ (0xA0, "\xa0‘’£€₯¦§¨©ͺ«¬\xad"),
    (0xAF, "―°±²³΄΅Ά·ΈΉΊ»Ό½ΎΏΐΑΒΓΔΕΖΗΘΙΚΛΜΝΞΟΠΡ"),
    (0xD3, "ΣΤΥΦΧΨΩΪΫάέήίΰαβγδεζηθικλμνξοπρςστυφχψωϊϋόύώ")]

def iso8859Part8 : SingleByteTable :=
  [ (0xA0, "\xa0"),
    (0xA2, "¢£¤¥¦§¨©×«¬\xad®¯°±²³´µ¶·¸¹÷»¼½¾"),
    (0xDF, "‗אבגדהוזחטיךכלםמןנסעףפץצקרשת"),
    (0xFD, "\u200e\u200f")]

def iso8859Part10 : SingleByteTable :=
  [ (0xA0, "\xa0ĄĒĢĪĨĶ§ĻĐŠŦŽ\xadŪŊ°ąēģīĩķ·ļđšŧž―ūŋĀÁÂÃÄÅÆĮČÉĘËĖÍÎÏ"),
    (0xD0, "ÐŅŌÓÔÕÖŨØŲÚÛÜÝÞßāáâãäåæįčéęëėíîïðņōóôõöũøųúûüýþĸ")]

def iso8859Part13 : SingleByteTable :=
  [ (0xA0, "\xa0”¢£¤„¦§Ø©Ŗ«¬\xad®Æ°±²³“µ¶·ø¹ŗ»¼½¾æĄĮĀĆÄÅĘĒČÉŹĖĢĶĪĻ"),
    (0xD0, "ŠŃŅÓŌÕÖ×ŲŁŚŪÜŻŽßąįāćäåęēčéźėģķīļšńņóōõö÷ųłśūüżž’")]

def iso8859Part14 : SingleByteTable :=
  [ (0xA0, "\xa0Ḃḃ£ĊċḊ§Ẁ©ẂḋỲ\xad®ŸḞḟĠġṀṁ¶ṖẁṗẃṠỳẄẅṡÀÁÂÃÄÅÆÇÈÉÊËÌÍÎÏ"),
    (0xD0, "ŴÑÒÓÔÕÖṪØÙÚÛÜÝŶßàáâãäåæçèéêëìíîïŵñòóôõöṫøùúûüýŷÿ")]

def iso8859Part15 : SingleByteTable :=
  [ (0xA0, "\xa0¡¢£€¥Š§š©ª«¬\xad®¯°±²³Žµ¶·ž¹º»ŒœŸ¿ÀÁÂÃÄÅÆÇÈÉÊËÌÍÎÏ"),
    (0xD0, "ÐÑÒÓÔÕÖ×ØÙÚÛÜÝÞßàáâãäåæçèéêëìíîïðñòóôõö÷øùúûüýþÿ")]

def iso8859Part16 : SingleByteTable :=
  [ (0xA0, "\xa0ĄąŁ€„Š§š©Ș«Ź\xadźŻ°±ČłŽ”¶·žčș»ŒœŸżÀÁÂĂÄĆÆÇÈÉÊËÌÍÎÏ"),
    (0xD0, "ĐŃÒÓÔŐÖŚŰÙÚÛÜĘȚßàáâăäćæçèéêëìíîïđńòóôőöśűùúûüęțÿ")]

def koi8R : SingleByteTable :=
  [ (0x80, "─│┌┐└┘├┤┬┴┼▀▄█▌▐░▒▓⌠■∙√≈≤≥\xa0⌡°²·÷═║╒ё╓╔╕╖╗╘╙╚╛╜╝╞"),
    (0xB0, "╟╠╡Ё╢╣╤╥╦╧╨╩╪╫╬©юабцдефгхийклмнопярстужвьызшэщчъ"),
    (0xE0, "ЮАБЦДЕФГХИЙКЛМНОПЯРСТУЖВЬЫЗШЭЩЧЪ")]

def koi8U : SingleByteTable :=
  [ (0x80, "─│┌┐└┘├┤┬┴┼▀▄█▌▐░▒▓⌠■∙√≈≤≥\xa0⌡°²·÷═║╒ёє╔ії╗╘╙╚╛ґў╞"),
    (0xB0, "╟╠╡ЁЄ╣ІЇ╦╧╨╩╪ҐЎ©юабцдефгхийклмнопярстужвьызшэщчъ"),
    (0xE0, "ЮАБЦДЕФГХИЙКЛМНОПЯРСТУЖВЬЫЗШЭЩЧЪ")]

def macintosh : SingleByteTable :=
  [ (0x80, "ÄÅÇÉÑÖÜáàâäãåçéèêëíìîïñóòôöõúùûü†°¢£§•¶ß®©™´¨≠ÆØ"),
    (0xB0, "∞±≤≥¥µ∂∑∏π∫ªºΩæø¿¡¬√ƒ≈∆«»…\xa0ÀÃÕŒœ–—“”‘’÷◊ÿŸ⁄€‹›ﬁﬂ"),
    (0xE0, "‡·‚„‰ÂÊÁËÈÍÎÏÌÓÔ\uf8ffÒÚÛÙıˆ˜¯˘˙˚¸˝˛ˇ")]

def windows874 : SingleByteTable :=
  [ (0x80, "€"),
    (0x85, "…"),
    (0x91, "‘’“”•–—"),
    (0xA0, "\xa0กขฃคฅฆงจฉชซฌญฎฏฐฑฒณดตถทธนบปผฝพฟภมยรฤลฦวศษสหฬอฮฯ"),
    (0xD0, "ะ\u0e31าำ\u0e34\u0e35\u0e36\u0e37\u0e38\u0e39\u0e3a"),
    (0xDF, "฿เแโใไๅๆ\u0e47\u0e48\u0e49\u0e4a\u0e4b\u0e4c\u0e4d\u0e4e๏๐๑๒๓๔๕๖๗๘๙๚๛")]

def windows1250 : SingleByteTable :=
  [ (0x80, "€"),
    (0x82, "‚"),
    (0x84, "„…†‡"),
    (0x89, "‰Š‹ŚŤŽŹ"),
    (0x91, "‘’“”•–—"),
    (0x99, "™š›śťžź\xa0ˇ˘Ł¤Ą¦§¨©Ş«¬\xad®Ż°±˛ł´µ¶·¸ąş»Ľ˝ľżŔÁÂĂÄĹĆÇČ"),
    (0xC9, "ÉĘËĚÍÎĎĐŃŇÓÔŐÖ×ŘŮÚŰÜÝŢßŕáâăäĺćçčéęëěíîďđńňóôőö÷ř"),
    (0xF9, "ůúűüýţ˙")]

def windows1251 : SingleByteTable :=
  [ (0x80, "ЂЃ‚ѓ„…†‡€‰Љ‹ЊЌЋЏђ‘’“”•–—"),
    (0x99, "™љ›њќћџ\xa0ЎўЈ¤Ґ¦§Ё©Є«¬\xad®Ї°±Ііґµ¶·ё№є»јЅѕїАБВГДЕЖЗИ"),
    (0xC9, "ЙКЛМНОПРСТУФХЦЧШЩЪЫЬЭЮЯабвгдежзийклмнопрстуфхцчш"),
    (0xF9, "щъыьэюя")]

def windows1252 : SingleByteTable :=
  [ (0x80, "€"),
    (0x82, "‚ƒ„…†‡ˆ‰Š‹Œ"),
    (0x8E, "Ž"),
    (0x91, "‘’“”•–—˜™š›œ"),
    (0x9E, "žŸ\xa0¡¢£¤¥¦§¨©ª«¬\xad®¯°±²³´µ¶·¸¹º»¼½¾¿ÀÁÂÃÄÅÆÇÈÉÊËÌÍ"),
    (0xCE, "ÎÏÐÑÒÓÔÕÖ×ØÙÚÛÜÝÞßàáâãäåæçèéêëìíîïðñòóôõö÷øùúûüý"),
    (0xFE, "þÿ")]

def windows1253 : SingleByteTable :=
  [ (0x80, "€"),
    (0x82, "‚ƒ„…†‡"),
    (0x89, "‰"),
    (0x8B, "‹"),
    (0x91, "‘’“”•–—"),
    (0x99, "™"),
    (0x9B, "›"),
    (0xA0, "\xa0΅Ά£¤¥¦§¨©"),
    (0xAB, "«¬\xad®―°±²³΄µ¶·ΈΉΊ»Ό½ΎΏΐΑΒΓΔΕΖΗΘΙΚΛΜΝΞΟΠΡ"),
    (0xD3, "ΣΤΥΦΧΨΩΪΫάέήίΰαβγδεζηθικλμνξοπρςστυφχψωϊϋόύώ")]

def windows1254 : SingleByteTable :=
  [ (0x80, "€"),
    (0x82, "‚ƒ„…†‡ˆ‰Š‹Œ"),
    (0x91, "‘’“”•–—˜™š›œ"),
    (0x9F, "Ÿ\xa0¡¢£¤¥¦§¨©ª«¬\xad®¯°±²³´µ¶·¸¹º»¼½¾¿ÀÁÂÃÄÅÆÇÈÉÊËÌÍÎ"),
    (0xCF, "ÏĞÑÒÓÔÕÖ×ØÙÚÛÜİŞßàáâãäåæçèéêëìíîïğñòóôõö÷øùúûüış"),
    (0xFF, "ÿ")]

def windows1255 : SingleByteTable :=
  [ (0x80, "€"),
    (0x82, "‚ƒ„…†‡ˆ‰"),
    (0x8B, "‹"),
    (0x91, "‘’“”•–—˜™"),
    (0x9B, "›"),
    (0xA0, "\xa0¡¢£₪¥¦§¨©×«¬\xad®¯°±²³´µ¶·¸¹÷»¼½¾¿\u05b0\u05b1\u05b2\u05b3\u05b4\u05b5\u05b6\u05b7\u05b8\u05b9\u05ba\u05bb\u05bc\u05bd־\u05bf"),
    (0xD0, "׀\u05c1\u05c2׃װױײ׳״"),
    (0xE0, "אבגדהוזחטיךכלםמןנסעףפץצקרשת"),
    (0xFD, "\u200e\u200f")]

def windows1256 : SingleByteTable :=
  [ (0x80, "€پ‚ƒ„…†‡ˆ‰ٹ‹Œچژڈگ‘’“”•–—ک™ڑ›œ\u200c\u200dں\xa0،¢£¤¥¦§¨©ھ«¬\xad®¯"),
    (0xB0, "°±²³´µ¶·¸¹؛»¼½¾؟ہءآأؤإئابةتثجحخدذرزسشصض×طظعغـفقك"),
    (0xE0, "àلâمنهوçèéêëىيîï\u064b\u064c\u064d\u064eô\u064f\u0650÷\u0651ù\u0652ûü\u200e\u200fے")]

def windows1257 : SingleByteTable :=
  [ (0x80, "€"),
    (0x82, "‚"),
    (0x84, "„…†‡"),
    (0x89, "‰"),
    (0x8B, "‹"),
    (0x8D, "¨ˇ¸"),
    (0x91, "‘’“”•–—"),
    (0x99, "™"),
    (0x9B, "›"),
    (0x9D, "¯˛"),
    (0xA0, "\xa0"),
    (0xA2, "¢£¤"),
    (0xA6, "¦§Ø©Ŗ«¬\xad®Æ°±²³´µ¶·ø¹ŗ»¼½¾æĄĮĀĆÄÅĘĒČÉŹĖĢĶĪĻŠŃŅÓŌÕ"),
    (0xD6, "Ö×ŲŁŚŪÜŻŽßąįāćäåęēčéźėģķīļšńņóōõö÷ųłśūüżž˙")]

def windows1258 : SingleByteTable :=
  [ (0x80, "€"),
    (0x82, "‚ƒ„…†‡ˆ‰"),
    (0x8B, "‹Œ"),
    (0x91, "‘’“”•–—˜™"),
    (0x9B, "›œ"),
    (0x9F, "Ÿ\xa0¡¢£¤¥¦§¨©ª«¬\xad®¯°±²³´µ¶·¸¹º»¼½¾¿ÀÁÂĂÄÅÆÇÈÉÊË\u0300ÍÎ"),
    (0xCF, "ÏĐÑ\u0309ÓÔƠÖ×ØÙÚÛÜƯ\u0303ßàáâăäåæçèéêë\u0301íîïđñ\u0323óôơö÷øùúûüư₫"),
    (0xFF, "ÿ")]

def macCyrillic : SingleByteTable :=
  [ (0x80, "АБВГДЕЖЗИЙКЛМНОПРСТУФХЦЧШЩЪЫЬЭЮЯ†°Ґ£§•¶І®©™Ђђ≠Ѓѓ"),
    (0xB0, "∞±≤≥іµґЈЄєЇїЉљЊњјЅ¬√ƒ≈∆«»…\xa0ЋћЌќѕ–—“”‘’÷„ЎўЏџ№Ёёя"),
    (0xE0, "абвгдежзийклмнопрстуфхцчшщъыьэю€")]

/-- The upper half of the bytes is an area of its own among the characters for private use. -/
def decodeUserDefined (bytes : List UInt8) : List Char :=
  bytes.map fun byte =>
    if byte.toNat < 0x80 then Char.ofNat byte.toNat else Char.ofNat (0xF700 + byte.toNat)

end ChatAssistant.Text.Charset
