import ChatAssistant.Text.Hexadecimal
import ChatAssistant.Text.Utf8

/-!
Bytes as a percent sign and two digits.
-/

namespace ChatAssistant.Text

def percentEncoded (byte : UInt8) : List Char :=
  ['%', upperHexDigit (byte.toNat / 16), upperHexDigit (byte.toNat % 16)]

/-- A text in which the bytes of all characters but the accepted ones are encoded. -/
def percentEncodedUnless (accepts : Char → Bool) (text : List Char) : List Char :=
  text.flatMap fun char =>
    if accepts char then [char] else (Utf8.encode [char]).flatMap percentEncoded

/-- The bytes of a text, with an encoded byte in the place of each percent sign that two digits
follow. -/
def percentDecoded : List Char → List UInt8
  | [] => []
  | '%' :: high :: low :: text =>
      match hexValue? high, hexValue? low with
      | some high, some low => UInt8.ofNat (high * 16 + low) :: percentDecoded text
      | _, _ => 0x25 :: percentDecoded (high :: low :: text)
  | char :: text => Utf8.encode [char] ++ percentDecoded text

end ChatAssistant.Text
