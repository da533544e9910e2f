import ChatAssistant.Text.Charset.Big5
import ChatAssistant.Text.Charset.Chinese
import ChatAssistant.Text.Charset.Japanese
import ChatAssistant.Text.Charset.Korean
import ChatAssistant.Text.Charset.SingleByte
import ChatAssistant.Text.Charset.Utf16
import ChatAssistant.Text.Utf8

/-!
Names of character sets, and the text of bytes in a set of any name.
-/

namespace ChatAssistant.Text.Charset

abbrev Decoder := List UInt8 → List Char

def labels : List (List String × Decoder) :=
  [
    (["unicode-1-1-utf-8", "unicode11utf8", "unicode20utf8", "utf8", "utf-8", "x-unicode20utf8"],
      Utf8.decode),
    (["866", "cp866", "csibm866", "ibm866"], ibm866.decode),
    (["csisolatin2", "iso-8859-2", "iso-ir-101", "iso8859-2", "iso88592", "iso_8859-2",
        "iso_8859-2:1987", "l2", "latin2"], iso8859Part2.decode),
    (["csisolatin3", "iso-8859-3", "iso-ir-109", "iso8859-3", "iso88593", "iso_8859-3",
        "iso_8859-3:1988", "l3", "latin3"], iso8859Part3.decode),
    (["csisolatin4", "iso-8859-4", "iso-ir-110", "iso8859-4", "iso88594", "iso_8859-4",
        "iso_8859-4:1988", "l4", "latin4"], iso8859Part4.decode),
    (["csisolatincyrillic", "cyrillic", "iso-8859-5", "iso-ir-144", "iso8859-5", "iso88595",
        "iso_8859-5", "iso_8859-5:1988"], iso8859Part5.decode),
    (["arabic", "asmo-708", "csiso88596e", "csiso88596i", "csisolatinarabic", "ecma-114",
        "iso-8859-6", "iso-8859-6-e", "iso-8859-6-i", "iso-ir-127", "iso8859-6", "iso88596",
        "iso_8859-6", "iso_8859-6:1987"], iso8859Part6.decode),
    (["csisolatingreek", "ecma-118", "elot_928", "greek", "greek8", "iso-8859-7", "iso-ir-126",
        "iso8859-7", "iso88597", "iso_8859-7", "iso_8859-7:1987", "sun_eu_greek"],
      iso8859Part7.decode),
    (["csiso88598e", "csisolatinhebrew", "hebrew", "iso-8859-8", "iso-8859-8-e", "iso-ir-138",
        "iso8859-8", "iso88598", "iso_8859-8", "iso_8859-8:1988", "visual"], iso8859Part8.decode),
    (["csiso88598i", "iso-8859-8-i", "logical"], iso8859Part8.decode),
    (["csisolatin6", "iso-8859-10", "iso-ir-157", "iso8859-10", "iso885910", "l6", "latin6"],
      iso8859Part10.decode),
    (["iso-8859-13", "iso8859-13", "iso885913"], iso8859Part13.decode),
    (["iso-8859-14", "iso8859-14", "iso885914"], iso8859Part14.decode),
    (["csisolatin9", "iso-8859-15", "iso8859-15", "iso885915", "iso_8859-15", "l9"],
      iso8859Part15.decode),
    (["iso-8859-16"], iso8859Part16.decode),
    (["cskoi8r", "koi", "koi8", "koi8-r", "koi8_r"], koi8R.decode),
    (["koi8-ru", "koi8-u"], koi8U.decode),
    (["csmacintosh", "mac", "macintosh", "x-mac-roman"], macintosh.decode),
    (["dos-874", "iso-8859-11", "iso8859-11", "iso885911", "tis-620", "windows-874"],
      windows874.decode),
    (["cp1250", "windows-1250", "x-cp1250"], windows1250.decode),
    (["cp1251", "windows-1251", "x-cp1251"], windows1251.decode),
    (["ansi_x3.4-1968", "ascii", "cp1252", "cp819", "csisolatin1", "ibm819", "iso-8859-1",
        "iso-ir-100", "iso8859-1", "iso88591", "iso_8859-1", "iso_8859-1:1987", "l1", "latin1",
        "us-ascii", "windows-1252", "x-cp1252"], windows1252.decode),
    (["cp1253", "windows-1253", "x-cp1253"], windows1253.decode),
    (["cp1254", "csisolatin5", "iso-8859-9", "iso-ir-148", "iso8859-9", "iso88599",
        "iso_8859-9", "iso_8859-9:1989", "l5", "latin5", "windows-1254", "x-cp1254"],
      windows1254.decode),
    (["cp1255", "windows-1255", "x-cp1255"], windows1255.decode),
    (["cp1256", "windows-1256", "x-cp1256"], windows1256.decode),
    (["cp1257", "windows-1257", "x-cp1257"], windows1257.decode),
    (["cp1258", "windows-1258", "x-cp1258"], windows1258.decode),
    (["x-mac-cyrillic", "x-mac-ukrainian"], macCyrillic.decode),
    (["chinese", "csgb2312", "csiso58gb231280", "gb2312", "gb_2312", "gb_2312-80", "gbk",
        "iso-ir-58", "x-gbk"], decodeChinese),
    (["gb18030"], decodeChinese),
    (["big5", "big5-hkscs", "cn-big5", "csbig5", "x-x-big5"], decodeBig5),
    (["cseucpkdfmtjapanese", "euc-jp", "x-euc-jp"], decodeEucJp),
    (["csiso2022jp", "iso-2022-jp"], decodeIso2022Jp),
    (["csshiftjis", "ms932", "ms_kanji", "shift-jis", "shift_jis", "sjis", "windows-31j",
        "x-sjis"], decodeShiftJis),
    (["cseuckr", "csksc56011987", "euc-kr", "iso-ir-149", "korean", "ks_c_5601-1987",
        "ks_c_5601-1989", "ksc5601", "ksc_5601", "windows-949"], decodeKorean),
    (["csiso2022kr", "hz-gb-2312", "iso-2022-cn", "iso-2022-cn-ext", "iso-2022-kr",
        "replacement"], decodeReplaced),
    (["unicodefffe", "utf-16be"], decodeUtf16 .big),
    (["csunicode", "iso-10646-ucs-2", "ucs-2", "unicode", "unicodefeff", "utf-16le", "utf-16"],
      decodeUtf16 .little),
    (["x-user-defined"], decodeUserDefined)]

def isLabelBlank (char : Char) : Bool :=
  ['\t', '\n', '\x0c', '\r', ' '].contains char

def normalizedLabel (label : List Char) : List Char :=
  ((((label.dropWhile isLabelBlank).reverse).dropWhile isLabelBlank).reverse).map Char.toLower

def ofLabel? (label : List Char) : Option Decoder :=
  (labels.find? fun (names, _) => names.contains (String.ofList (normalizedLabel label))).map
    (·.2)

/-- The text of bytes in a character set. Three marks in front of them tell of another one,
and count more than the set. -/
def decodeMarked (decode : Decoder) : Decoder
  | 0xEF :: 0xBB :: 0xBF :: bytes => Utf8.decode bytes
  | 0xFF :: 0xFE :: bytes => decodeUtf16 .little bytes
  | 0xFE :: 0xFF :: bytes => decodeUtf16 .big bytes
  | bytes => decode bytes

end ChatAssistant.Text.Charset
