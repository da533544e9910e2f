import ChatAssistant.Json.Record
import ChatAssistant.Timestamp.Notation

/-!
Messages of a conversation and the sources quoted under them.
-/

namespace ChatAssistant

open Json (Document)

inductive Role where
  | user
  | assistant
  deriving DecidableEq, Repr

namespace Role

def name : Role → String
  | .user => "user"
  | .assistant => "assistant"

def ofName? (name : String) : Option Role :=
  if name = "user" then some .user
  else if name = "assistant" then some .assistant
  else none

/-- A role is written as its name, or as an object with the name as its one member and nothing
as its value. -/
def ofDocument? : Document → Option Role
  | .string name => (Json.symbolText? name).bind ofName?
  | .object [(name, .null)] => (Json.symbolText? name).bind ofName?
  | _ => none

end Role

structure SourceLink where
  title : String
  snippet : String
  url : String
  deriving DecidableEq, Repr

namespace SourceLink

def toJson (link : SourceLink) : Json :=
  .object [("title", .string link.title), ("snippet", .string link.snippet),
    ("url", .string link.url)]

/-- A field that is absent is empty. -/
def ofDocument? (document : Document) : Option SourceLink := do
  match ← document.fields? ["title", "snippet", "url"] with
  | [title, snippet, url] =>
      return ⟨← Document.defaulted? "" Document.text? title,
        ← Document.defaulted? "" Document.text? snippet,
        ← Document.defaulted? "" Document.text? url⟩
  | _ => none

end SourceLink

def readLinks? : Option Document → Option (Option (List SourceLink)) :=
  Document.optional? (Document.list? SourceLink.ofDocument?)

structure Message where
  id : Nat
  role : Role
  content : String
  timestamp : Timestamp
  links : Option (List SourceLink)
  deriving DecidableEq, Repr

namespace Message

def isFromUser (message : Message) : Bool :=
  message.role = .user

/-- A link without an address is never shown. -/
def visibleLinks (message : Message) : List SourceLink :=
  (message.links.getD []).filter (!·.url.isEmpty)

def linkMembers : Option (List SourceLink) → List (String × Json)
  | none => []
  | some links => [("searchResults", .array (links.map SourceLink.toJson))]

def toJson (message : Message) : Json :=
  .object ([("id", .integer message.id), ("role", .string message.role.name),
    ("content", .string message.content),
    ("timestamp", .string (String.ofList message.timestamp.text))] ++
      linkMembers message.links)

/-- Nothing is written of a message whose time has no notation. -/
def write? (message : Message) : Option String :=
  if message.timestamp.isWritable then some message.toJson.text else none

def readTimestamp? (document : Document) : Option Timestamp :=
  document.text?.bind fun text => Timestamp.read? text.toList

def ofDocument? (document : Document) : Option Message := do
  match ← document.fields? ["id", "role", "content", "timestamp", "searchResults"] with
  | [id, role, content, timestamp, links] =>
      return ⟨← Document.required? Document.natural? id,
        ← Document.required? Role.ofDocument? role,
        ← Document.required? Document.text? content,
        ← Document.required? readTimestamp? timestamp,
        ← readLinks? links⟩
  | _ => none

def read? (text : String) : Option Message :=
  (Document.read? text.toList).bind ofDocument?

end Message

end ChatAssistant
