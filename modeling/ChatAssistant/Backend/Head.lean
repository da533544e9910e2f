import ChatAssistant.Backend.MediaType
import ChatAssistant.Decimal.Basic
import ChatAssistant.Text.Parts

/-!
The head of a response: a line with its status, then fields of a name and a value on a line
each, then an empty line.
-/

namespace ChatAssistant

/-- A name, in lower case, and a value. -/
abbrev Field := List Char × List Char

structure Head where
  isOldVersion : Bool
  status : Nat
  fields : List Field
  deriving DecidableEq, Repr

namespace Head

/-- A line without its end, as characters of one byte each. -/
def readLine? : List UInt8 → Option (List Char × List UInt8)
  | [] => none
  | 0x0A :: bytes => some ([], bytes)
  | 0x0D :: 0x0A :: bytes => some ([], bytes)
  | byte :: bytes =>
      (readLine? bytes).map fun (line, rest) => (Char.ofNat byte.toNat :: line, rest)

def isLegible (char : Char) : Bool :=
  char = '\t' || (0x20 ≤ char.toNat && char.toNat ≠ 0x7F)

def isBlank (char : Char) : Bool :=
  char = ' ' || char = '\t'

def trimmed (text : List Char) : List Char :=
  ((text.dropWhile isBlank).reverse.dropWhile isBlank).reverse

/-- The version and the status. Words for the status may follow; they do not matter. -/
def readStatus? (line : List Char) : Option (Bool × Nat) :=
  match line with
  | 'H' :: 'T' :: 'T' :: 'P' :: '/' :: '1' :: '.' :: version :: ' ' :: a :: b :: c :: reason =>
      if (version = '0' || version = '1') && [a, b, c].all Char.isDigit && a ≠ '0' &&
          (reason.isEmpty || reason.head? = some ' ') && reason.all isLegible then
        some (version = '0', Decimal.ofDigits [a, b, c])
      else none
  | _ => none

def readField? (line : List Char) : Option Field := do
  let (name, rest) ← MediaType.readToken? line
  match rest with
  | ':' :: value =>
      if value.all isLegible then return (name.map Char.toLower, trimmed value) else none
  | _ => none

/-- The fields up to the empty line, which is at most this line of them. -/
def readFields? : Nat → List UInt8 → Option (List Field × List UInt8)
  | 0, _ => none
  | lines + 1, bytes => do
      let (line, rest) ← readLine? bytes
      if line.isEmpty then return ([], rest)
      else
        let field ← readField? line
        let (fields, rest) ← readFields? lines rest
        return (field :: fields, rest)

def fieldLimit : Nat := 100

/-- Empty lines may stand before a head. -/
def skipEmptyLines : List UInt8 → List UInt8
  | 0x0D :: 0x0A :: bytes => skipEmptyLines bytes
  | 0x0A :: bytes => skipEmptyLines bytes
  | bytes => bytes

def read? (bytes : List UInt8) : Option (Head × List UInt8) := do
  let (line, rest) ← readLine? (skipEmptyLines bytes)
  let (isOldVersion, status) ← readStatus? line
  let (fields, rest) ← readFields? (fieldLimit + 1) rest
  return (⟨isOldVersion, status, fields⟩, rest)

def valuesOf (head : Head) (name : String) : List (List Char) :=
  (head.fields.filter fun (given, _) => given = name.toList).map (·.2)

def commaParts (value : List Char) : List (List Char) :=
  Text.parts (· = ',') value

def isAscii (char : Char) : Bool :=
  char.toNat < 0x80

/-- Whether the last of all encodings is the one in chunks. -/
def isChunked (encoding : List Char) : Bool :=
  encoding.all isAscii &&
    ((commaParts encoding).getLast?.map fun part => (trimmed part).map Char.toLower)
      = some "chunked".toList

def readLength? (text : List Char) : Option Nat :=
  if !text.isEmpty && text.all Char.isDigit && Decimal.ofDigits text < UInt64.size then
    some (Decimal.ofDigits text)
  else none

/-- The length that all of the values agree on. -/
def agreedLength? (values : List (List Char)) : Option Nat := do
  match ← (values.flatMap commaParts).mapM fun part => readLength? (trimmed part) with
  | [] => none
  | length :: others => if others.all (· = length) then some length else none

inductive Measure where
  | nothing
  | chunks
  | bytes (count : Nat)
  | toEnd
  deriving DecidableEq, Repr

/-- The measure of the body behind a head. An encoding goes before a length. -/
def measure? (head : Head) : Option Measure :=
  if [101, 204, 304].contains head.status then some .nothing
  else
    match (head.valuesOf "transfer-encoding").getLast? with
    | some encoding =>
        if head.isOldVersion then none
        else if isChunked encoding then some .chunks
        else some .toEnd
    | none =>
        match head.valuesOf "content-length" with
        | [] => some .toEnd
        | lengths => (agreedLength? lengths).map .bytes

/-- A response below 200 only announces another one, but for one kind: that hands the
connection over. -/
def isInterim (head : Head) : Bool :=
  head.status < 200 && head.status ≠ 101

end Head

end ChatAssistant
