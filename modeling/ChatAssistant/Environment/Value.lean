import ChatAssistant.Text.Alphanumeric

/-!
Values in an environment file. A value may hold variables, whose texts are put in their places
when it is assigned.
-/

namespace ChatAssistant.Environment

inductive Part where
  | char (meant : Char)
  | variable (name : List Char)
  deriving DecidableEq, Repr

/-- What a part stands for. A variable that is absent stands for nothing. -/
def Part.meaning (lookup : String → Option String) : Part → List Char
  | .char meant => [meant]
  | .variable name => ((lookup (String.ofList name)).getD "").toList

def unescaped? (char : Char) : Option Char :=
  if char = 'n' then some '\n'
  else if ['\\', '\'', '\"', '$', ' '].contains char then some char
  else none

def isSpaceOrTab (char : Char) : Bool :=
  char = ' ' || char = '\t'

/-- Where in a value a character stands. The places outside of single quotes may be between double
quotes; the places in the name of a variable keep the part of it that has been read. -/
inductive Place where
  | plain (isQuoted : Bool)
  | escaped (isQuoted : Bool)
  | singleQuoted
  | name (isQuoted : Bool) (read : List Char)
  | bracedName (isQuoted : Bool) (read : List Char)
  | behind
  | comment
  deriving DecidableEq, Repr

namespace Place

/-- The parts that end with a character, and the place behind it. The character behind the name of
a variable has no other meaning than itself, unless another variable begins with it. -/
def next? (char : Char) : Place → Option (List Part × Place)
  | .plain isQuoted =>
      if char = '$' then some ([], .name isQuoted [])
      else if char = '\\' then some ([], .escaped isQuoted)
      else if char = '\"' then some ([], .plain !isQuoted)
      else if isQuoted then some ([.char char], .plain true)
      else if char = '\'' then some ([], .singleQuoted)
      else if isSpaceOrTab char then some ([], .behind)
      else some ([.char char], .plain false)
  | .escaped isQuoted => (unescaped? char).map fun meant => ([.char meant], .plain isQuoted)
  | .singleQuoted =>
      if char = '\'' then some ([], .plain false) else some ([.char char], .singleQuoted)
  | .name isQuoted read =>
      if Text.isAlphanumeric char then some ([], .name isQuoted (read ++ [char]))
      else if char = '\x7b' ∧ read = [] then some ([], .bracedName isQuoted [])
      else if char = '$' then some ([.variable read], .name isQuoted [])
      else some ([.variable read, .char char], .plain isQuoted)
  | .bracedName isQuoted read =>
      if char = '\x7d' then some ([.variable read], .plain isQuoted)
      else some ([], .bracedName isQuoted (read ++ [char]))
  | .behind =>
      if isSpaceOrTab char then some ([], .behind)
      else if char = '#' then some ([], .comment)
      else none
  | .comment => some ([], .comment)

/-- The parts that end with the value. A quote or a brace must not be open there; a backslash
stands for nothing. -/
def last? : Place → Option (List Part)
  | .plain false => some []
  | .escaped false => some []
  | .name false read => some [.variable read]
  | .behind => some []
  | .comment => some []
  | _ => none

end Place

def readParts? : Place → List Char → Option (List Part)
  | place, [] => place.last?
  | place, char :: text => do
      let (parts, next) ← place.next? char
      return parts ++ (← readParts? next text)

/-- Reads a value. One that is missing, or in whose place a comment stands, is empty. -/
def readValue? (text : List Char) : Option (List Part) :=
  if text.isEmpty || text.head? = some '#' then some [] else readParts? (.plain false) text

end ChatAssistant.Environment
