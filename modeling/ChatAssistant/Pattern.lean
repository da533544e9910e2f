import ChatAssistant.Text.DecimalDigit

/-!
Shapes of text, and the operands in the first place of a text that has a given shape. Where a
shape can be met in several ways, the ways are tried in a fixed order: the longest run first,
an optional part first as present, and the left one of two alternatives before the right one.
-/

namespace ChatAssistant

inductive Pattern where
  /-- One character of a class. -/
  | single (accepts : Char → Bool)
  /-- Any number of characters of a class. -/
  | run (accepts : Char → Bool)
  /-- At least one character of a class. -/
  | nonemptyRun (accepts : Char → Bool)
  /-- Digits, and perhaps a point and more digits after it. -/
  | numeral
  /-- The characters of a word, compared by a key. -/
  | word (key : Char → Char) (spelling : List Char)
  | optional (pattern : Pattern)
  | either (first second : Pattern)
  | andThen (first second : Pattern)

namespace Pattern

instance : Append Pattern := ⟨andThen⟩

/-- What may be left after a run of the class, shortest rest first. -/
def afterRun (accepts : Char → Bool) (text : List Char) : List (List Char) :=
  go text []
where
  go : List Char → List (List Char) → List (List Char)
    | [], longer => [] :: longer
    | char :: rest, longer =>
        if accepts char then go rest ((char :: rest) :: longer) else (char :: rest) :: longer

/-- What may be left after a numeral, shortest rest first. Every part of a numeral that begins
where it begins is a numeral. -/
def afterNumeral : List Char → List (List Char)
  | [] => []
  | char :: rest => if Text.isDecimalDigit char then go false rest [] else []
where
  go (pointSeen : Bool) : List Char → List (List Char) → List (List Char)
    | [], longer => [] :: longer
    | char :: rest, longer =>
        if Text.isDecimalDigit char then go pointSeen rest ((char :: rest) :: longer)
        else if char = '.' && !pointSeen then go true rest ((char :: rest) :: longer)
        else (char :: rest) :: longer

def afterWord? (key : Char → Char) : List Char → List Char → Option (List Char)
  | [], text => some text
  | _ :: _, [] => none
  | letter :: spelling, char :: rest =>
      if key letter = key char then afterWord? key spelling rest else none

/-- What may be left after the pattern at the front of the text, in the order of trial. -/
def rests : Pattern → List Char → List (List Char)
  | .single _, [] => []
  | .single accepts, char :: rest => if accepts char then [rest] else []
  | .run accepts, text => afterRun accepts text
  | .nonemptyRun _, [] => []
  | .nonemptyRun accepts, char :: rest => if accepts char then afterRun accepts rest else []
  | .numeral, text => afterNumeral text
  | .word key spelling, text => (afterWord? key spelling text).toList
  | .optional pattern, text => pattern.rests text ++ [text]
  | .either first second, text => first.rests text ++ second.rests text
  | .andThen first second, text => (first.rests text).flatMap second.rests

def startsAt (pattern : Pattern) (text : List Char) : Bool :=
  !(pattern.rests text).isEmpty

def occursIn (pattern : Pattern) : List Char → Bool
  | [] => pattern.startsAt []
  | char :: rest => pattern.startsAt (char :: rest) || pattern.occursIn rest

inductive Piece where
  | skip (pattern : Pattern)
  | operand (pattern : Pattern)

def Piece.pattern : Piece → Pattern
  | .skip pattern => pattern
  | .operand pattern => pattern

def Piece.found (piece : Piece) (text rest : List Char) : List (List Char) :=
  match piece with
  | .skip _ => []
  | .operand _ => [text.take (text.length - rest.length)]

/-- The operands of the first way to meet the pieces at the front of the text. -/
def operandsAt : List Piece → List Char → Option (List (List Char))
  | [], _ => some []
  | piece :: pieces, text =>
      (piece.pattern.rests text).findSome? fun rest =>
        (operandsAt pieces rest).map (piece.found text rest ++ ·)

/-- The operands at the first place in the text where the pieces are met. -/
def operands? (pieces : List Piece) : List Char → Option (List (List Char))
  | [] => operandsAt pieces []
  | char :: rest =>
      match operandsAt pieces (char :: rest) with
      | some operands => some operands
      | none => operands? pieces rest

end Pattern

end ChatAssistant
