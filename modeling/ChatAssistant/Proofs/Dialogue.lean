import ChatAssistant.Conversation

/-!
What is said in a conversation, apart from the numbers and times of its messages.
-/

namespace ChatAssistant

structure Utterance where
  role : Role
  content : String
  links : Option (List SourceLink)
  deriving DecidableEq, Repr

namespace Utterance

def question (text : String) : Utterance :=
  ⟨.user, text, none⟩

def answer (reply : Reply) : Utterance :=
  ⟨.assistant, reply.content, reply.links⟩

def dialogue : List (String × Reply) → List Utterance
  | [] => []
  | (text, reply) :: turns => question text :: answer reply :: dialogue turns

@[simp]
theorem dialogue_append (first second : List (String × Reply)) :
    dialogue (first ++ second) = dialogue first ++ dialogue second := by
  induction first with
  | nil => rfl
  | cons turn first ih => simp only [List.cons_append, dialogue, ih]

theorem dialogue_set {turns : List (String × Reply)} {place : Nat} {text : String}
    {before : Reply} (at_place : turns[place]? = some (text, before)) (reply : Reply) :
    dialogue (turns.set place (text, reply)) =
      (dialogue turns).set (2 * place + 1) (answer reply) := by
  induction turns generalizing place with
  | nil => cases at_place
  | cons turn turns ih =>
      cases place with
      | zero =>
          rw [List.getElem?_cons_zero] at at_place
          rw [Option.some.inj at_place]
          rfl
      | succ place =>
          rw [List.getElem?_cons_succ] at at_place
          have later : 2 * (place + 1) + 1 = (2 * place + 1) + 1 + 1 := by omega
          rw [List.set_cons_succ, later]
          simp only [dialogue, List.set_cons_succ, ih at_place]

end Utterance

def Message.utterance (message : Message) : Utterance :=
  ⟨message.role, message.content, message.links⟩

namespace Conversation

def utterances (conversation : Conversation) : List Utterance :=
  conversation.messages.map Message.utterance

@[simp]
theorem utterances_add (conversation : Conversation) (now : Timestamp) (role : Role)
    (content : String) (links : Option (List SourceLink)) :
    (conversation.add now role content links).utterances =
      conversation.utterances ++ [⟨role, content, links⟩] := by
  simp [utterances, Message.utterance]

@[simp]
theorem utterances_answer (conversation : Conversation) (now : Timestamp) (reply : Reply) :
    (conversation.answer now reply).utterances =
      conversation.utterances ++ [Utterance.answer reply] :=
  utterances_add conversation now .assistant reply.content reply.links

@[simp]
theorem utterances_length (conversation : Conversation) :
    conversation.utterances.length = conversation.messages.length :=
  List.length_map Message.utterance

end Conversation

end ChatAssistant
