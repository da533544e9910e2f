import ChatAssistant.Text.Charset.Fault

/-!
Text in units of 16 bits. Characters beyond the first 65536 take a pair of units.
-/

namespace ChatAssistant.Text.Charset

inductive ByteOrder where
  | big
  | little
  deriving DecidableEq, Repr

def ByteOrder.unit (order : ByteOrder) (first second : UInt8) : Nat :=
  match order with
  | .big => first.toNat * 0x100 + second.toNat
  | .little => second.toNat * 0x100 + first.toNat

def leadsPair (unit : Nat) : Bool :=
  0xD800 ≤ unit && unit < 0xDC00

def endsPair (unit : Nat) : Bool :=
  0xDC00 ≤ unit && unit < 0xE000

/-- Half of a pair is a fault, and so are bytes that are left over at the end. -/
def decodeUtf16 (order : ByteOrder) : List UInt8 → List Char
  | [] => []
  | [_] => [fault]
  | first :: second :: bytes =>
      let unit := order.unit first second
      if leadsPair unit then
        match bytes with
        | third :: fourth :: rest =>
            let next := order.unit third fourth
            if endsPair next then
              Char.ofNat (0x10000 + (unit - 0xD800) * 0x400 + (next - 0xDC00)) ::
                decodeUtf16 order rest
            else fault :: decodeUtf16 order (third :: fourth :: rest)
        | _ => [fault]
      else if endsPair unit then fault :: decodeUtf16 order bytes
      else Char.ofNat unit :: decodeUtf16 order bytes

end ChatAssistant.Text.Charset
