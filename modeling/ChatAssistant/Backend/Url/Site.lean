import ChatAssistant.Decimal.Basic
import ChatAssistant.Text.Parts
import ChatAssistant.Text.PercentEncoding

/-!
Sites: the part of an address that says on which machine a place is. A site has a name or a
number, which is of four or of sixteen bytes.
-/

namespace ChatAssistant.Url

open Text

/-- A long number is given as eight pieces of 16 bits. -/
inductive Site where
  | name (text : List Char)
  | number (value : Nat)
  | longNumber (pieces : List Nat)
  deriving DecidableEq, Repr

namespace Site

def isDot (char : Char) : Bool :=
  char = '.'

def isColon (char : Char) : Bool :=
  char = ':'

/-- Whether a part of a number is one of these digits is told by how it begins. -/
def partValue? : List Char → Option Nat
  | [] => none
  | '0' :: 'x' :: digits => numberInBase? 16 digits
  | '0' :: digit :: digits => numberInBase? 8 (digit :: digits)
  | digits => numberInBase? 10 digits

/-- The parts between dots. A dot at the very end does not count. -/
def dottedParts (text : List Char) : List (List Char) :=
  match (parts isDot text).reverse with
  | [] :: before :: rest => (before :: rest).reverse
  | reversed => reversed.reverse

def endsInNumber (name : List Char) : Bool :=
  match (dottedParts name).getLast? with
  | none => false
  | some last => (!last.isEmpty && last.all Char.isDigit) || (partValue? last).isSome

/-- A number in up to four parts. The last one fills all the bytes that are left. -/
def ofParts? (values : List Nat) : Option Nat :=
  match values.reverse with
  | [] => none
  | last :: others =>
      if others.length < 4 ∧ last < Nat.pow 256 (4 - others.length) ∧ others.all (· < 256) then
        some (others.reverse.foldl (fun number value => number * 256 + value) 0 *
          Nat.pow 256 (4 - others.length) + last)
      else none

def readNumber? (name : List Char) : Option Nat := do
  ofParts? (← (dottedParts name).mapM partValue?)

/-- A part of four bytes in a long number is written in decimals without needless zeros. -/
def byteValue? (text : List Char) : Option Nat := do
  let value ← numberInBase? 10 text
  if !text.isEmpty && (text.length = 1 || text.head? ≠ some '0') && value < 256 then some value
  else none

def readBytePieces? (text : List Char) : Option (List Nat) := do
  match ← (parts isDot text).mapM byteValue? with
  | [a, b, c, d] => return [a * 256 + b, c * 256 + d]
  | _ => none

def readPiece? (text : List Char) : Option (List Nat) := do
  if text.isEmpty || 4 < text.length then none else return [← numberInBase? 16 text]

/-- Pieces between colons. Only at the very end may two of them be written as bytes. -/
def readPieces? (mayEndInBytes : Bool) (text : List Char) : Option (List Nat) :=
  if text.isEmpty then some []
  else
    match (parts isColon text).reverse with
    | [] => none
    | last :: others => do
        let before ← others.reverse.mapM readPiece?
        let pieces ←
          if mayEndInBytes && last.any isDot then readBytePieces? last else readPiece? last
        return before.flatten ++ pieces

def cutAtGap : List Char → List Char × Option (List Char)
  | [] => ([], none)
  | ':' :: ':' :: text => ([], some text)
  | char :: text =>
      let (before, rest) := cutAtGap text
      (char :: before, rest)

/-- Two colons stand for all the pieces of zero that are missing, of which there is one at
least. -/
def readLongNumber? (text : List Char) : Option (List Nat) :=
  match cutAtGap text with
  | (before, none) => do
      let pieces ← readPieces? true before
      if pieces.length = 8 then some pieces else none
  | (before, some rest) => do
      let first ← readPieces? false before
      let last ← readPieces? true rest
      let count := first.length + last.length
      if count < 8 then some (first ++ List.replicate (8 - count) 0 ++ last) else none

/-- The characters of names. Those beyond ASCII are taken as they are. -/
def isNameCharacter (char : Char) : Bool :=
  char.isAlphanum || 0x80 ≤ char.toNat ||
    ['!', '$', '&', '\'', '(', ')', '*', '+', ',', '-', '.', ';', '=', '_', '~'].contains char

def readName? (text : List Char) : Option Site := do
  let name := (← Utf8.decode? (percentDecoded text)).map Char.toLower
  if name.isEmpty || !name.all isNameCharacter then none
  else if endsInNumber name then return .number (← readNumber? name)
  else return .name name

/-- A long number stands in brackets. -/
def read? : List Char → Option Site
  | '[' :: text =>
      match text.reverse with
      | ']' :: inner => (readLongNumber? inner.reverse).map .longNumber
      | _ => none
  | text => readName? text

def numberText (value : Nat) : List Char :=
  let byte (power : Nat) : List Char := Decimal.digits (value / Nat.pow 256 power % 256)
  byte 3 ++ '.' :: byte 2 ++ '.' :: byte 1 ++ '.' :: byte 0

def hexText (number : Nat) : List Char :=
  Nat.toDigits 16 number

def zeroRun (pieces : List Nat) : Nat :=
  (pieces.takeWhile (· = 0)).length

def longestZeroRun : List Nat → Nat
  | [] => 0
  | piece :: pieces => max (zeroRun (piece :: pieces)) (longestZeroRun pieces)

def piecesText : List Nat → List Char
  | [] => []
  | [piece] => hexText piece
  | piece :: pieces => hexText piece ++ ':' :: piecesText pieces

def splitAtRun (length : Nat) : List Nat → List Nat × List Nat
  | [] => ([], [])
  | piece :: pieces =>
      if zeroRun (piece :: pieces) = length then ([], (piece :: pieces).drop length)
      else
        let (before, rest) := splitAtRun length pieces
        (piece :: before, rest)

/-- Two colons stand for the first of the longest runs of zeros, unless it is of one piece. -/
def longNumberText (pieces : List Nat) : List Char :=
  let run := longestZeroRun pieces
  if run < 2 then piecesText pieces
  else
    let (before, rest) := splitAtRun run pieces
    piecesText before ++ ':' :: ':' :: piecesText rest

def text : Site → List Char
  | .name text => text
  | .number value => numberText value
  | .longNumber pieces => '[' :: longNumberText pieces ++ [']']

end Site

end ChatAssistant.Url
