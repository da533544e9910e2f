import ChatAssistant.Decimal.Basic
import ChatAssistant.Text.Hexadecimal

/-!
JSON text taken apart by its grammar alone. A document still holds what a value cannot: numbers
beyond every range, escapes that name half a character, names given twice, nesting of any depth.
-/

namespace ChatAssistant.Json

/-- A character of a string, or the sixteen bits that an escape names. -/
inductive Symbol where
  | char (char : Char)
  | unit (code : Nat)
  deriving DecidableEq, Repr

structure Numeral where
  isNegative : Bool
  whole : List Char
  fraction : Option (List Char)
  exponent : Option Int
  deriving DecidableEq, Repr

inductive Document where
  | null
  | bool (value : Bool)
  | number (numeral : Numeral)
  | string (symbols : List Symbol)
  | array (items : List Document)
  | object (members : List (List Symbol × Document))

namespace Document

def isBlank (char : Char) : Bool :=
  char = ' ' || char = '\t' || char = '\n' || char = '\r'

def skipBlanks (text : List Char) : List Char :=
  text.dropWhile isBlank

def unitCode? (first second third fourth : Char) : Option Nat := do
  return (((← Text.hexValue? first) * 16 + (← Text.hexValue? second)) * 16 +
    (← Text.hexValue? third)) * 16
    + (← Text.hexValue? fourth)

def unescaped? : Char → Option Char
  | '\"' => some '\"'
  | '\\' => some '\\'
  | '/' => some '/'
  | 'b' => some '\x08'
  | 'f' => some '\x0c'
  | 'n' => some '\n'
  | 'r' => some '\r'
  | 't' => some '\t'
  | _ => none

def readSymbols : List Char → Option (List Symbol × List Char)
  | [] => none
  | '\"' :: rest => some ([], rest)
  | '\\' :: 'u' :: first :: second :: third :: fourth :: rest => do
      let code ← unitCode? first second third fourth
      let (symbols, rest) ← readSymbols rest
      return (.unit code :: symbols, rest)
  | '\\' :: escape :: rest => do
      let char ← unescaped? escape
      let (symbols, rest) ← readSymbols rest
      return (.char char :: symbols, rest)
  | char :: rest =>
      if char.toNat < 0x20 then none
      else do
        let (symbols, rest) ← readSymbols rest
        return (.char char :: symbols, rest)

def readDigits (text : List Char) : Option (List Char × List Char) :=
  let digits := text.takeWhile Char.isDigit
  if digits.isEmpty then none else some (digits, text.dropWhile Char.isDigit)

/-- A number does not begin with a zero that another digit follows. -/
def readWhole : List Char → Option (List Char × List Char)
  | '0' :: rest => some (['0'], rest)
  | text => readDigits text

def readFraction : List Char → Option (Option (List Char) × List Char)
  | '.' :: rest => (readDigits rest).map fun (digits, rest) => (some digits, rest)
  | text => some (none, text)

def readPower (isNegative : Bool) (text : List Char) : Option (Option Int × List Char) :=
  (readDigits text).map fun (digits, rest) =>
    let power : Int := Decimal.ofDigits digits
    (some (if isNegative then -power else power), rest)

def readSignedPower : List Char → Option (Option Int × List Char)
  | '+' :: text => readPower false text
  | '-' :: text => readPower true text
  | text => readPower false text

def readExponent : List Char → Option (Option Int × List Char)
  | 'e' :: text => readSignedPower text
  | 'E' :: text => readSignedPower text
  | text => some (none, text)

def readMagnitude (isNegative : Bool) (text : List Char) : Option (Document × List Char) := do
  let (whole, text) ← readWhole text
  let (fraction, text) ← readFraction text
  let (exponent, text) ← readExponent text
  return (.number ⟨isNegative, whole, fraction, exponent⟩, text)

def readNumber : List Char → Option (Document × List Char)
  | '-' :: text => readMagnitude true text
  | text => readMagnitude false text

def readItems (readValue : List Char → Option (Document × List Char)) :
    Nat → List Char → Option (List Document × List Char)
  | 0, _ => none
  | steps + 1, text =>
      match readValue text with
      | none => none
      | some (item, text) =>
          match skipBlanks text with
          | ']' :: text => some ([item], text)
          | ',' :: text =>
              (readItems readValue steps text).map fun (items, text) => (item :: items, text)
          | _ => none

def readName (text : List Char) : Option (List Symbol × List Char) :=
  match skipBlanks text with
  | '\"' :: text =>
      match readSymbols text with
      | none => none
      | some (name, text) =>
          match skipBlanks text with
          | ':' :: text => some (name, text)
          | _ => none
  | _ => none

def readMembers (readValue : List Char → Option (Document × List Char)) :
    Nat → List Char → Option (List (List Symbol × Document) × List Char)
  | 0, _ => none
  | steps + 1, text =>
      match readName text with
      | none => none
      | some (name, text) =>
          match readValue text with
          | none => none
          | some (value, text) =>
              match skipBlanks text with
              | '\x7d' :: text => some ([(name, value)], text)
              | ',' :: text =>
                  (readMembers readValue steps text).map fun (members, text) =>
                    ((name, value) :: members, text)
              | _ => none

/-- Reads a value that is nested less than `depth` deep, and the white space before it. -/
def readValue : Nat → List Char → Option (Document × List Char)
  | 0, _ => none
  | depth + 1, text =>
      match skipBlanks text with
      | 'n' :: 'u' :: 'l' :: 'l' :: rest => some (.null, rest)
      | 't' :: 'r' :: 'u' :: 'e' :: rest => some (.bool true, rest)
      | 'f' :: 'a' :: 'l' :: 's' :: 'e' :: rest => some (.bool false, rest)
      | '\"' :: rest => (readSymbols rest).map fun (symbols, rest) => (.string symbols, rest)
      | '[' :: rest =>
          match skipBlanks rest with
          | ']' :: rest => some (.array [], rest)
          | rest => (readItems (readValue depth) (rest.length + 1) rest).map
              fun (items, rest) => (.array items, rest)
      | '\x7b' :: rest =>
          match skipBlanks rest with
          | '\x7d' :: rest => some (.object [], rest)
          | rest => (readMembers (readValue depth) (rest.length + 1) rest).map
              fun (members, rest) => (.object members, rest)
      | rest => readNumber rest

/-- Reads a text that is one document, with nothing but white space around it. No text nests
deeper than it is long. -/
def read? (text : List Char) : Option Document :=
  match readValue (text.length + 1) text with
  | some (document, rest) => if (skipBlanks rest).isEmpty then some document else none
  | none => none

end Document

end ChatAssistant.Json
