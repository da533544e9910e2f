import ChatAssistant.Backend.Answer

/-!
What the assistant says once a backend has answered, or has failed to.
-/

namespace ChatAssistant

structure Reply where
  content : String
  links : Option (List SourceLink) := none
  deriving DecidableEq, Repr

namespace Reply

/-- What is said when a question could not be answered at all. -/
def failure : Reply :=
  { content := "Произошла ошибка при обработке запроса. Пожалуйста, попробуйте снова." }

def calculationFailure : String := "Не удалось вычислить выражение."

def nothingFound : Reply :=
  { content := "Не удалось найти информацию. Попробуйте другой запрос." }

/-- The snippet of a hit that is no hit. -/
def placeholderSnippet : String := "К сожалению, по запросу"

def nothingSpecific (query : String) : Reply :=
  { content := "К сожалению, по запросу \"" ++ query ++
      "\" я не нашёл конкретной информации. Попробуйте переформулировать вопрос." }

/-- The text of a result: floating-point numbers as they are shown elsewhere, texts as they are,
and all else as JSON. -/
def resultText : Json → String
  | .string text => text
  | .real number => String.ofList (Decimal.shown number)
  | json => json.text

def stepsText (steps : List String) : String :=
  if steps.isEmpty then "" else "\n\nРешение:\n" ++ "\n".intercalate steps

def solved (answer : MathAnswer) (result : Json) : Reply :=
  { content := answer.explanation.getD "" ++ "\n\nОтвет: " ++ resultText result ++
      stepsText answer.steps }

/-- Without a result the error is said, if there are words for it. -/
def unsolved (answer : MathAnswer) : Reply :=
  match answer.error with
  | some error => { content := if error.isEmpty then calculationFailure else error }
  | none => { content := calculationFailure }

def ofMathAnswer (answer : MathAnswer) : Reply :=
  match answer.result with
  | none => unsolved answer
  | some .null => unsolved answer
  | some result => solved answer result

/-- The snippet of a hit, if it says anything. -/
def usableSnippet? (hit : Hit) : Option String :=
  hit.snippet.filter fun snippet => !snippet.isEmpty && snippet ≠ placeholderSnippet

def linksOf (hits : List Hit) : List SourceLink :=
  (hits.map Hit.link).filter (!·.url.isEmpty)

def found (query snippet : String) (hits : List Hit) : Reply :=
  { content := "По вашему запросу \"" ++ query ++
      "\" я нашёл следующую информацию:\n\n" ++ snippet
    links := if (linksOf hits).isEmpty then none else some (linksOf hits) }

/-- The first hit is quoted; all of them are linked. -/
def ofSearchAnswer (query : String) (answer : SearchAnswer) : Reply :=
  match answer.hits.getD [] with
  | [] => nothingFound
  | first :: more =>
      match usableSnippet? first with
      | none => nothingSpecific query
      | some snippet => found query snippet (first :: more)

end Reply

end ChatAssistant
