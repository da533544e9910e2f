import ChatAssistant.Json.Record
import ChatAssistant.Route

/-!
What is asked of a backend. Each route has a form of its own for the question.
-/

namespace ChatAssistant

open Json (Document)

inductive Query where
  | math (expression : String)
  | search (query : String)
  deriving DecidableEq, Repr

namespace Query

def ofText (text : String) : Query :=
  match Route.ofText text with
  | .math => .math text
  | .search => .search text

def route : Query → Route
  | .math _ => .math
  | .search _ => .search

def toJson : Query → Json
  | .math expression => .object [("expression", .string expression)]
  | .search query => .object [("query", .string query)]

def textRecord? (field : String) (document : Document) : Option String := do
  match ← document.fields? [field] with
  | [text] => Document.required? Document.text? text
  | _ => none

def readMath? (text : List Char) : Option Query :=
  ((Document.read? text).bind (textRecord? "expression")).map .math

def readSearch? (text : List Char) : Option Query :=
  ((Document.read? text).bind (textRecord? "query")).map .search

end Query

end ChatAssistant
