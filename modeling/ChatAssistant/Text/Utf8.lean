/-!
Reading bytes as UTF-8. The bytes are cut into well-formed characters and into the longest
parts that begin a character and do not go on as one; each such part stands for one fault.
-/

namespace ChatAssistant.Text.Utf8

abbrev ByteRange := Nat × Nat

def ByteRange.holds (range : ByteRange) (byte : UInt8) : Bool :=
  range.1 ≤ byte.toNat && byte.toNat ≤ range.2

def continuation : ByteRange := (0x80, 0xBF)

/-- What a first byte promises: its share of the code point, and the range of each byte that
has to follow. -/
def lead? (byte : UInt8) : Option (Nat × List ByteRange) :=
  let code := byte.toNat
  if code ≤ 0x7F then some (code, [])
  else if code < 0xC2 then none
  else if code ≤ 0xDF then some (code - 0xC0, [continuation])
  else if code = 0xE0 then some (0, [(0xA0, 0xBF), continuation])
  else if code = 0xED then some (0xD, [(0x80, 0x9F), continuation])
  else if code ≤ 0xEF then some (code - 0xE0, [continuation, continuation])
  else if code = 0xF0 then some (0, [(0x90, 0xBF), continuation, continuation])
  else if code ≤ 0xF3 then some (code - 0xF0, [continuation, continuation, continuation])
  else if code = 0xF4 then some (4, [(0x80, 0x8F), continuation, continuation])
  else none

/-- Takes a byte for each range as long as the bytes fit. The code point is there if all did. -/
def follow (code : Nat) : List ByteRange → List UInt8 → Option Nat × List UInt8
  | [], bytes => (some code, bytes)
  | _ :: _, [] => (none, [])
  | range :: ranges, byte :: bytes =>
      if range.holds byte then follow (code * 64 + (byte.toNat - 0x80)) ranges bytes
      else (none, byte :: bytes)

theorem follow_length_le (code : Nat) (ranges : List ByteRange) (bytes : List UInt8) :
    (follow code ranges bytes).2.length ≤ bytes.length := by
  induction bytes generalizing code ranges with
  | nil => cases ranges <;> simp [follow]
  | cons byte bytes ih =>
      cases ranges with
      | nil => simp [follow]
      | cons range ranges =>
          simp only [follow]
          split
          · exact Nat.le_succ_of_le (ih _ ranges)
          · simp

/-- The characters in order, with nothing in the place of each ill-formed part. -/
def scan : List UInt8 → List (Option Char)
  | [] => []
  | byte :: bytes =>
      match lead? byte with
      | none => none :: scan bytes
      | some (code, ranges) =>
          (follow code ranges bytes).1.map Char.ofNat :: scan (follow code ranges bytes).2
termination_by bytes => bytes.length
decreasing_by
  · simp
  · exact Nat.lt_succ_of_le (follow_length_le code ranges bytes)

def decode? (bytes : List UInt8) : Option (List Char) :=
  (scan bytes).mapM id

def decode (bytes : List UInt8) : List Char :=
  (scan bytes).map (·.getD '\uFFFD')

def encode (text : List Char) : List UInt8 :=
  text.flatMap String.utf8EncodeChar

end ChatAssistant.Text.Utf8
