import ChatAssistant.Json.Document
import ChatAssistant.Json.Value

/-!
Meaning of a document: values, and records with named fields. A record is written as an object,
whose other members are passed over whatever they hold, or as an array of its fields in order.
-/

namespace ChatAssistant.Json

/-- The bits of an escape before a pair is complete. -/
def isHighSurrogate (code : Nat) : Bool :=
  0xD800 ≤ code && code < 0xDC00

def isLowSurrogate (code : Nat) : Bool :=
  0xDC00 ≤ code && code < 0xE000

def surrogatePair (high low : Nat) : Char :=
  Char.ofNat (0x10000 + (high - 0xD800) * 0x400 + (low - 0xDC00))

/-- The characters of a string, if no escape names half of a pair alone. -/
def characters? : List Symbol → Option (List Char)
  | [] => some []
  | .char char :: symbols => (characters? symbols).map (char :: ·)
  | .unit high :: .unit low :: symbols =>
      if isHighSurrogate high then
        if isLowSurrogate low then (characters? symbols).map (surrogatePair high low :: ·)
        else none
      else if isLowSurrogate high then none
      else (characters? (.unit low :: symbols)).map (Char.ofNat high :: ·)
  | .unit code :: symbols =>
      if isHighSurrogate code || isLowSurrogate code then none
      else (characters? symbols).map (Char.ofNat code :: ·)

def symbolText? (symbols : List Symbol) : Option String :=
  (characters? symbols).map String.ofList

namespace Numeral

def decimal (numeral : Numeral) : Decimal :=
  let fraction := numeral.fraction.getD []
  ⟨Decimal.ofDigits (numeral.whole ++ fraction),
    numeral.exponent.getD 0 - fraction.length⟩

/-- The nearest floating-point number, if it is finite. A reader that scales the digits by a power
of ten comes to the same for numerals whose digits and power are exact as doubles, and may be one
unit in the last place away from it for longer ones. -/
def real? (numeral : Numeral) : Option Json :=
  let magnitude := numeral.decimal.toFloat
  if magnitude.isFinite then some (.real (if numeral.isNegative then -magnitude else magnitude))
  else none

/-- A number without fraction and exponent is an integer if it fits in 64 bits, negative zero
apart. -/
def value? (numeral : Numeral) : Option Json :=
  if numeral.fraction.isSome || numeral.exponent.isSome then numeral.real?
  else
    let magnitude := Decimal.ofDigits numeral.whole
    if numeral.isNegative then
      if 0 < magnitude ∧ magnitude ≤ UInt64.size / 2 then some (.integer (-magnitude))
      else numeral.real?
    else if magnitude < UInt64.size then some (.integer magnitude)
    else numeral.real?

end Numeral

/-- Puts a member in the order of the names; it takes the place of one with its name. -/
def insertMember (name : String) (value : Json) : List (String × Json) → List (String × Json)
  | [] => [(name, value)]
  | (other, present) :: members =>
      if name < other then (name, value) :: (other, present) :: members
      else if name = other then (name, value) :: members
      else (other, present) :: insertMember name value members

def orderedMembers (members : List (String × Json)) : List (String × Json) :=
  members.foldl (fun ordered member => insertMember member.1 member.2 ordered) []

namespace Document

def value? : Nat → Document → Option Json
  | _, .null => some .null
  | _, .bool value => some (.bool value)
  | _, .number numeral => numeral.value?
  | _, .string symbols => (symbolText? symbols).map .string
  | 0, .array _ => none
  | depth + 1, .array items => (items.mapM (value? depth)).map .array
  | 0, .object _ => none
  | depth + 1, .object members => do
      let members ← members.mapM fun member => do
        return (← symbolText? member.1, ← value? depth member.2)
      return .object (orderedMembers members)

/-- A value has fewer levels than this, those of the records around it among them. -/
def levelLimit : Nat := 128

def text? : Document → Option String
  | .string symbols => symbolText? symbols
  | _ => none

def natural? : Document → Option Nat
  | .number numeral =>
      match numeral.value? with
      | some (.integer (.ofNat magnitude)) => some magnitude
      | _ => none
  | _ => none

def list? {α : Type} (item? : Document → Option α) : Document → Option (List α)
  | .array items => items.mapM item?
  | _ => none

/-- The one member of a name; a second one is a fault. -/
def memberNamed? (members : List (String × Document)) (name : String) :
    Option (Option Document) :=
  match members.filter (·.1 = name) with
  | [] => some none
  | [(_, value)] => some (some value)
  | _ => none

def fields? (names : List String) : Document → Option (List (Option Document))
  | .object members => do
      let members ← members.mapM fun member => do return (← symbolText? member.1, member.2)
      names.mapM (memberNamed? members)
  | .array items =>
      if items.length ≤ names.length then
        some (items.map some ++ List.replicate (names.length - items.length) none)
      else none
  | _ => none

def required? {α : Type} (read? : Document → Option α) (field : Option Document) : Option α :=
  field.bind read?

/-- A field that may be absent or null. -/
def optional? {α : Type} (read? : Document → Option α) :
    Option Document → Option (Option α)
  | none => some none
  | some .null => some none
  | some document => (read? document).map some

/-- A field that may be absent, and then has a value of its own. -/
def defaulted? {α : Type} (default : α) (read? : Document → Option α) :
    Option Document → Option α
  | none => some default
  | some document => read? document

end Document

end ChatAssistant.Json
