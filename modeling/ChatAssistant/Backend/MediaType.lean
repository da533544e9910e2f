/-!
Media types, as they are named in the head of a response. All that matters here is the
parameter that names a character set.
-/

namespace ChatAssistant.MediaType

def isTokenCharacter (char : Char) : Bool :=
  char.isAlphanum || ['!', '#', '$', '%', '&', '\'', '*', '+', '-', '.', '^', '_', '\x60', '|',
    '~'].contains char

def readToken? (text : List Char) : Option (List Char × List Char) :=
  let token := text.takeWhile isTokenCharacter
  if token.isEmpty then none else some (token, text.dropWhile isTokenCharacter)

def isQuotable (char : Char) : Bool :=
  0x20 ≤ char.toNat && char.toNat < 0x7F

def readQuoted? : List Char → Option (List Char × List Char)
  | [] => none
  | char :: text =>
      if char = '\"' then some ([], text)
      else if isQuotable char then
        (readQuoted? text).map fun (value, rest) => (char :: value, rest)
      else none

/-- A value between quotes has at least one character, which may be a quote itself. -/
def readQuotedValue? : List Char → Option (List Char × List Char)
  | [] => none
  | char :: text =>
      if isQuotable char then
        (readQuoted? text).map fun (value, rest) => (char :: value, rest)
      else none

/-- A value and what follows it. Only a value at the very end may be empty, and only behind a
value in quotes may there be spaces. -/
def readValue? : List Char → Option (List Char × List Char)
  | [] => some ([], [])
  | '\"' :: text =>
      (readQuotedValue? text).map fun (value, rest) => (value, rest.dropWhile (· = ' '))
  | text => readToken? text

abbrev Parameter := List Char × List Char

def readParameter? (text : List Char) : Option (Parameter × List Char) := do
  let (name, text) ← readToken? text
  match text with
  | '=' :: text =>
      let (value, rest) ← readValue? text
      return ((name, value), rest)
  | _ => none

/-- The parameters of a text in which each follows a semicolon. `fuel` bounds their number. -/
def readParameters? : Nat → List Char → Option (List Parameter)
  | _, [] => some []
  | fuel + 1, ';' :: text =>
      let text := text.dropWhile (· = ' ')
      if text.isEmpty then some []
      else do
        let (parameter, rest) ← readParameter? text
        return parameter :: (← readParameters? fuel rest)
  | _, _ => none

def parameters? (text : List Char) : Option (List Parameter) := do
  let (_, text) ← readToken? text
  match text with
  | '/' :: text =>
      let (_, text) ← readToken? text
      readParameters? text.length text
  | _ => none

def charset? (text : List Char) : Option (List Char) := do
  let parameters ← parameters? text
  (parameters.find? fun (name, _) => name.map Char.toLower = "charset".toList).map (·.2)

end ChatAssistant.MediaType
