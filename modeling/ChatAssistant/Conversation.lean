import ChatAssistant.Backend.Query
import ChatAssistant.Message
import ChatAssistant.Reply
import ChatAssistant.Text.Blank

/-!
A conversation: its messages in order, and whether a question is waiting for its answer. The
time at which a message is added comes from outside.
-/

namespace ChatAssistant

structure Conversation where
  messages : List Message
  isBusy : Bool
  nextId : UInt64
  deriving DecidableEq, Repr

namespace Conversation

def greeting : String :=
  "Привет! Я RotyChat AI с доступом в интернет и калькулятором! " ++
    "Задайте любой вопрос или попросите что-нибудь посчитать."

def empty : Conversation :=
  ⟨[], false, 1⟩

def add (conversation : Conversation) (now : Timestamp) (role : Role) (content : String)
    (links : Option (List SourceLink)) : Conversation :=
  { conversation with
    messages := conversation.messages ++
      [⟨conversation.nextId.toNat, role, content, now, links⟩]
    nextId := conversation.nextId + 1 }

@[simp]
theorem add_messages (conversation : Conversation) (now : Timestamp) (role : Role)
    (content : String) (links : Option (List SourceLink)) :
    (conversation.add now role content links).messages = conversation.messages ++
      [⟨conversation.nextId.toNat, role, content, now, links⟩] := rfl

/-- A conversation in which the assistant has spoken first. -/
def new (now : Timestamp) : Conversation :=
  empty.add now .assistant greeting none

def isBlank (text : String) : Bool :=
  (Text.trim text.toList).isEmpty

/-- Takes a question, unless it is blank or another one is waiting. -/
def ask? (conversation : Conversation) (now : Timestamp) (text : String) :
    Option (Query × Conversation) :=
  if isBlank text || conversation.isBusy then none
  else some (Query.ofText text,
    { conversation.add now .user text none with isBusy := true })

theorem ask?_eq_none_iff (conversation : Conversation) (now : Timestamp) (text : String) :
    conversation.ask? now text = none ↔ isBlank text = true ∨ conversation.isBusy = true := by
  unfold ask?
  by_cases refused : (isBlank text || conversation.isBusy) = true
  · rw [if_pos refused]
    exact iff_of_true rfl (by simpa only [Bool.or_eq_true] using refused)
  · rw [if_neg refused]
    exact iff_of_false (by simp only [reduceCtorEq, not_false_eq_true])
      (by simpa only [Bool.or_eq_true] using refused)

theorem ask?_of_taken {conversation : Conversation} (now : Timestamp) {text : String}
    (spoken : isBlank text = false) (free : conversation.isBusy = false) :
    conversation.ask? now text = some (Query.ofText text,
      { conversation.add now .user text none with isBusy := true }) := by
  unfold ask?
  rw [spoken, free]
  rfl

theorem ask?_of_blank (conversation : Conversation) (now : Timestamp) {text : String}
    (blank : isBlank text = true) : conversation.ask? now text = none :=
  (ask?_eq_none_iff conversation now text).mpr (Or.inl blank)

/-- Adds a reply; nothing waits after it. -/
def answer (conversation : Conversation) (now : Timestamp) (reply : Reply) : Conversation :=
  { conversation.add now .assistant reply.content reply.links with isBusy := false }

end Conversation

end ChatAssistant
