import ChatAssistant.Backend.Head
import ChatAssistant.Text.Hexadecimal

/-!
Bodies in chunks. A chunk stands behind a line with its size; one without size is the last, and
fields may follow it. Here a line ends in both of the characters that end one.
-/

namespace ChatAssistant

/-- What the line before a chunk tells. -/
structure Chunk where
  size : Nat
  /-- The length of an extension, whose text does not matter. -/
  extensionLength : Nat
  deriving DecidableEq, Repr

namespace Chunk

def digitValue? (byte : UInt8) : Option Nat :=
  Text.hexValue? (Char.ofNat byte.toNat)

def isDigitByte (byte : UInt8) : Bool :=
  (digitValue? byte).isSome

def isBlankByte (byte : UInt8) : Bool :=
  byte = 0x20 || byte = 0x09

/-- The length of an extension and what follows its line. -/
def readExtension? : List UInt8 → Option (Nat × List UInt8)
  | [] => none
  | 0x0D :: 0x0A :: bytes => some (0, bytes)
  | byte :: bytes =>
      if byte = 0x0D || byte = 0x0A then none
      else (readExtension? bytes).map fun (length, rest) => (length + 1, rest)

/-- Reads the line before a chunk. The size may be followed by blanks, and by an extension
behind a semicolon. -/
def read? (bytes : List UInt8) : Option (Chunk × List UInt8) :=
  let digits := bytes.takeWhile isDigitByte
  let size := digits.foldl (fun size byte => size * 16 + (digitValue? byte).getD 0) 0
  if digits.isEmpty then none
  else
    match (bytes.dropWhile isDigitByte).dropWhile isBlankByte with
    | 0x0D :: 0x0A :: rest => some (⟨size, 0⟩, rest)
    | 0x3B :: rest => (readExtension? rest).map fun (length, rest) => (⟨size, length⟩, rest)
    | _ => none

def readWholeLine? : List UInt8 → Option (List UInt8 × List UInt8)
  | [] => none
  | 0x0D :: 0x0A :: bytes => some ([0x0D, 0x0A], bytes)
  | byte :: bytes =>
      if byte = 0x0D then none
      else (readWholeLine? bytes).map fun (line, rest) => (byte :: line, rest)

/-- The lines behind the last chunk, up to an empty one. `fuel` bounds their number. -/
def readTrailer? : Nat → List UInt8 → Option (List (List UInt8))
  | 0, _ => none
  | _ + 1, 0x0D :: 0x0A :: _ => some []
  | fuel + 1, bytes => do
      let (line, rest) ← readWholeLine? bytes
      return line :: (← readTrailer? fuel rest)

/-- No trailer is as long. -/
def trailerLimit : Nat := 0x4000

/-- Lines behind the last chunk have to be fields; what ends a line of a head ends one of them
too. -/
def isTrailer (lines : List (List UInt8)) : Bool :=
  let whole := lines.flatten ++ [0x0D, 0x0A]
  lines.isEmpty ||
    (lines.length < Head.fieldLimit && whole.length < trailerLimit &&
      (Head.readFields? (lines.length + 1) whole).isSome)

/-- Not as much text stands in all extensions together. -/
def extensionLimit : Nat := 0x4000

/-- What the chunks hold. `extensions` is the length of the extensions so far, and `fuel`
bounds the number of chunks. -/
def readBodyFrom? : Nat → Nat → List UInt8 → Option (List UInt8)
  | 0, _, _ => none
  | fuel + 1, extensions, bytes => do
      let (chunk, rest) ← read? bytes
      let extensions := extensions + chunk.extensionLength
      if extensionLimit ≤ extensions then none
      else if chunk.size = 0 then
        if isTrailer (← readTrailer? (rest.length + 1) rest) then return [] else none
      else
        match rest.drop chunk.size with
        | 0x0D :: 0x0A :: more =>
            return rest.take chunk.size ++ (← readBodyFrom? fuel extensions more)
        | _ => none

def readBody? (bytes : List UInt8) : Option (List UInt8) :=
  readBodyFrom? (bytes.length + 1) 0 bytes

end Chunk

end ChatAssistant
