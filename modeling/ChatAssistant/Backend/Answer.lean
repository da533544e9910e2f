import ChatAssistant.Message

/-!
What the calculator and the search answer, in the form in which it travels.
-/

namespace ChatAssistant

open Json (Document)

/-- The answer of the calculator. It holds a result or an error, or neither. -/
structure MathAnswer where
  result : Option Json := none
  explanation : Option String := none
  steps : List String := []
  error : Option String := none

namespace MathAnswer

def failure (message : String) : MathAnswer :=
  { error := some message }

def resultLevels : Nat := Document.levelLimit - 2

def ofDocument? (document : Document) : Option MathAnswer := do
  match ← document.fields? ["result", "explanation", "steps", "error"] with
  | [result, explanation, steps, error] =>
      return {
        result := ← Document.optional? (Document.value? resultLevels) result
        explanation := ← Document.optional? Document.text? explanation
        steps := ← Document.defaulted? [] (Document.list? Document.text?) steps
        error := ← Document.optional? Document.text? error }
  | _ => none

def read? (text : List Char) : Option MathAnswer :=
  (Document.read? text).bind ofDocument?

/-- Fields without content are left out. -/
def toJson (answer : MathAnswer) : Json :=
  .object ((answer.result.map fun result => ("result", result)).toList ++
    (answer.explanation.map fun text => ("explanation", Json.string text)).toList ++
    (if answer.steps.isEmpty then [] else [("steps", Json.ofTexts answer.steps)]) ++
    (answer.error.map fun text => ("error", Json.string text)).toList)

end MathAnswer

structure Hit where
  title : Option String := none
  snippet : Option String := none
  url : Option String := none
  deriving DecidableEq, Repr

namespace Hit

def ofDocument? (document : Document) : Option Hit := do
  match ← document.fields? ["title", "snippet", "url"] with
  | [title, snippet, url] =>
      return ⟨← Document.optional? Document.text? title,
        ← Document.optional? Document.text? snippet,
        ← Document.optional? Document.text? url⟩
  | _ => none

def toJson (hit : Hit) : Json :=
  .object ((hit.title.map fun text => ("title", Json.string text)).toList ++
    (hit.snippet.map fun text => ("snippet", Json.string text)).toList ++
    (hit.url.map fun text => ("url", Json.string text)).toList)

/-- The link to a hit; what the hit leaves open is empty. -/
def link (hit : Hit) : SourceLink :=
  ⟨hit.title.getD "", hit.snippet.getD "", hit.url.getD ""⟩

end Hit

structure SearchAnswer where
  hits : Option (List Hit) := none
  deriving DecidableEq, Repr

namespace SearchAnswer

def ofDocument? (document : Document) : Option SearchAnswer := do
  match ← document.fields? ["results"] with
  | [hits] => return ⟨← Document.optional? (Document.list? Hit.ofDocument?) hits⟩
  | _ => none

def read? (text : List Char) : Option SearchAnswer :=
  (Document.read? text).bind ofDocument?

def toJson (answer : SearchAnswer) : Json :=
  .object [("results", match answer.hits with
    | none => .null
    | some hits => .array (hits.map Hit.toJson))]

end SearchAnswer

end ChatAssistant
