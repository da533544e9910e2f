import ChatAssistant.Text.Blank
import ChatAssistant.Text.Utf8

/-!
Lines of an environment file. A line goes on behind its end as long as a quote is open, and is
cut off before a comment.
-/

namespace ChatAssistant.Environment

open Text

/-- Where in a line a character stands: whether a quote is open, and what stood before it. -/
inductive Position where
  | plain
  | afterBlank
  | escaped
  | doubleQuoted
  | doubleQuotedEscaped
  | singleQuoted
  | singleQuotedEscaped
  deriving DecidableEq, Repr

namespace Position

def opened (char : Char) (otherwise : Position) : Position :=
  if char = '\\' then .escaped
  else if char = '\"' then .doubleQuoted
  else if char = '\'' then .singleQuoted
  else otherwise

def isInnerBlank (char : Char) : Bool :=
  isBlank char && char ≠ '\n' && char ≠ '\r'

/-- The position behind a character. The second of two blanks counts as any other character. -/
def next (char : Char) : Position → Position
  | .plain => if isInnerBlank char then .afterBlank else opened char .plain
  | .afterBlank => opened char .plain
  | .escaped => .plain
  | .doubleQuoted =>
      if char = '\\' then .doubleQuotedEscaped
      else if char = '\"' then .plain
      else .doubleQuoted
  | .doubleQuotedEscaped => .doubleQuoted
  | .singleQuoted =>
      if char = '\\' then .singleQuotedEscaped
      else if char = '\'' then .plain
      else .singleQuoted
  | .singleQuotedEscaped => .singleQuoted

end Position

/-- The end of a stretch of text: a position, or a comment and the text before it. -/
inductive Ending where
  | at (position : Position)
  | comment (before : List Char)
  deriving DecidableEq, Repr

/-- Follows a text from a position. A comment begins with a number sign behind a blank. -/
def ending : Position → List Char → Ending
  | position, [] => .at position
  | position, char :: text =>
      if position = .afterBlank ∧ char = '#' then .comment []
      else
        match ending (position.next char) text with
        | .comment before => .comment (char :: before)
        | .at position => .at position

def withoutLineEnd (text : List Char) : List Char :=
  match text.reverse with
  | '\n' :: '\r' :: rest => rest.reverse
  | '\n' :: rest => rest.reverse
  | _ => text

def startsComment (text : List Char) : Bool :=
  (text.dropWhile isBlank).head? = some '#'

/-- Lines as they are read: complete ones, or a fault in the place of the first bad one. -/
inductive Line where
  | complete (text : List Char)
  | bad
  deriving DecidableEq, Repr

/-- The bytes up to each line feed, with it. -/
def physicalLines : List UInt8 → List (List UInt8)
  | [] => []
  | byte :: bytes =>
      if byte = 0x0A then [byte] :: physicalLines bytes
      else
        match physicalLines bytes with
        | [] => [[byte]]
        | line :: lines => (byte :: line) :: lines

/-- Joins lines: `before` is the text of the line so far, and `position` its end. -/
def join (before : List Char) (position : Position) : List (List UInt8) → List Line
  | [] => if position = .plain then [] else [.bad]
  | line :: lines =>
      match Utf8.decode? line with
      | none => [.bad]
      | some text =>
          if startsComment (before ++ text) then .complete [] :: join [] .plain lines
          else
            match ending position text with
            | .comment uncommented =>
                .complete (before ++ uncommented) :: join [] .plain lines
            | .at .plain => .complete (withoutLineEnd (before ++ text)) :: join [] .plain lines
            | .at position => join (before ++ text) position lines

def byteOrderMark : List UInt8 := [0xEF, 0xBB, 0xBF]

def withoutMark (bytes : List UInt8) : List UInt8 :=
  if byteOrderMark.isPrefixOf bytes then bytes.drop byteOrderMark.length else bytes

def lines (bytes : List UInt8) : List Line :=
  join [] .plain (physicalLines (withoutMark bytes))

end ChatAssistant.Environment
