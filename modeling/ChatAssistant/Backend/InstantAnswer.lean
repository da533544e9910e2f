import ChatAssistant.Backend.Answer

/-!
Instant answers of a search engine: a summary of the topic, and topics related to it. They are
brought into the form in which the search answers.
-/

namespace ChatAssistant

open Json (Document)

/-- A related topic. A group of topics has neither text nor address of its own. -/
structure RelatedTopic where
  text : Option String := none
  address : Option String := none
  deriving DecidableEq, Repr

structure InstantAnswer where
  heading : Option String := none
  summary : Option String := none
  summaryAddress : Option String := none
  topics : List RelatedTopic := []
  deriving DecidableEq, Repr

namespace RelatedTopic

def ofDocument? (document : Document) : Option RelatedTopic := do
  match ← document.fields? ["Text", "FirstURL"] with
  | [text, address] =>
      return ⟨← Document.optional? Document.text? text,
        ← Document.optional? Document.text? address⟩
  | _ => none

/-- The part of a text before its first dash with spaces around it. -/
def beforeDash? : List Char → Option (List Char)
  | [] => none
  | ' ' :: '-' :: ' ' :: _ => some []
  | char :: text => (beforeDash? text).map (char :: ·)

def title (text : String) : String :=
  match beforeDash? text.toList with
  | some head => String.ofList head
  | none => "Результат"

/-- A topic is a hit if it has both a text and an address. -/
def hit? (topic : RelatedTopic) : Option Hit :=
  match topic.text, topic.address with
  | some text, some address => some ⟨some (title text), some text, some address⟩
  | _, _ => none

end RelatedTopic

namespace InstantAnswer

def ofDocument? (document : Document) : Option InstantAnswer := do
  match ← document.fields? ["Heading", "AbstractText", "AbstractURL", "RelatedTopics"] with
  | [heading, summary, summaryAddress, topics] =>
      return ⟨← Document.optional? Document.text? heading,
        ← Document.optional? Document.text? summary,
        ← Document.optional? Document.text? summaryAddress,
        ← Document.defaulted? [] (Document.list? RelatedTopic.ofDocument?) topics⟩
  | _ => none

def read? (text : List Char) : Option InstantAnswer :=
  (Document.read? text).bind ofDocument?

def topicLimit : Nat := 5

def summaryHit? (answer : InstantAnswer) : Option Hit :=
  match answer.summary with
  | none => none
  | some text =>
      if text.isEmpty then none
      else some ⟨some (answer.heading.getD "Информация"), some text,
        some (answer.summaryAddress.getD "")⟩

def hits (answer : InstantAnswer) : List Hit :=
  answer.summaryHit?.toList ++ (answer.topics.take topicLimit).filterMap RelatedTopic.hit?

/-- Says that nothing was found, in the place of a hit. -/
def noHit (query : String) : Hit :=
  ⟨some "Результаты не найдены",
    some ("К сожалению, по запросу \"" ++ query ++
      "\" информация не найдена. Попробуйте переформулировать вопрос."),
    some ""⟩

def searchAnswer (query : String) (answer : InstantAnswer) : SearchAnswer :=
  ⟨some (if answer.hits.isEmpty then [noHit query] else answer.hits)⟩

end InstantAnswer

end ChatAssistant
