import ChatAssistant.Environment.Basic
import ChatAssistant.Environment.Line
import ChatAssistant.Environment.Value

/-!
Assignments in an environment file. A line holds one, or nothing, or is at fault.
-/

namespace ChatAssistant.Environment

open Text

structure Assignment where
  name : String
  value : List Part
  deriving DecidableEq, Repr

def Assignment.text (lookup : String → Option String) (assignment : Assignment) : String :=
  String.ofList (assignment.value.flatMap (·.meaning lookup))

/-- Makes assignments one after another, each with the variables as they are by then. -/
def addAll (environment : Environment) : List Assignment → Except Fault Environment
  | [] => .ok environment
  | assignment :: assignments => do
      let next ← environment.add assignment.name (assignment.text environment.value?)
      next.addAll assignments

def startsName (char : Char) : Bool :=
  char.isAlpha || char = '_'

def continuesName (char : Char) : Bool :=
  char.isAlphanum || char = '_' || char = '.'

def readName? : List Char → Option (List Char × List Char)
  | [] => none
  | char :: text =>
      if startsName char then
        some (char :: text.takeWhile continuesName,
          (text.dropWhile continuesName).dropWhile isBlank)
      else none

def readEquals? : List Char → Option (List Char)
  | '=' :: text => some text
  | _ => none

def exportWord : List Char := ['e', 'x', 'p', 'o', 'r', 't']

/-- The name that is assigned to, and the text behind the equals sign. The word `export` may
stand before the name; it is the name itself where the equals sign follows it. -/
def readTarget? (text : List Char) : Option (List Char × List Char) := do
  let (name, rest) ← readName? text
  match readEquals? rest with
  | some value => return (name, value)
  | none =>
      if name = exportWord then
        let (name, rest) ← readName? rest
        return (name, ← readEquals? rest)
      else none

/-- What a line says: nothing, if it is blank or a comment, or one assignment. -/
def assignment? (line : List Char) : Option (Option Assignment) :=
  let text := trim line
  if text.isEmpty || text.head? = some '#' then some none
  else do
    let (name, value) ← readTarget? text
    return some ⟨String.ofList name, ← readValue? (value.dropWhile isBlank)⟩

def assignmentsOf : List Line → List Assignment
  | [] => []
  | .bad :: _ => []
  | .complete text :: lines =>
      match assignment? text with
      | none => []
      | some assignment => assignment.toList ++ assignmentsOf lines

def assignments (bytes : List UInt8) : List Assignment :=
  assignmentsOf (lines bytes)

def Line.isGood : Line → Bool
  | .complete text => (assignment? text).isSome
  | .bad => false

def isGoodFile (bytes : List UInt8) : Bool :=
  (lines bytes).all Line.isGood

end ChatAssistant.Environment
