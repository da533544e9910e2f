import ChatAssistant.Conversation
import Mathlib.Data.List.Chain

/-!
A conversation under calls in any order, also replies that nobody waits for and questions while
one is waiting: how its messages are numbered, who has spoken last, and what one more call adds.
-/

namespace ChatAssistant.Conversation

inductive Call where
  | question (now : Timestamp) (text : String)
  | reply (now : Timestamp) (reply : Reply)

def receive (conversation : Conversation) : Call → Option Query × Conversation
  | .question now text =>
      match conversation.ask? now text with
      | none => (none, conversation)
      | some (query, asked) => (some query, asked)
  | .reply now reply => (none, conversation.answer now reply)

def after (conversation : Conversation) (calls : List Call) : Conversation :=
  calls.foldl (fun conversation call => (conversation.receive call).2) conversation

/-- The assistant has spoken first at some time, or nobody has spoken. -/
def opened : Option Timestamp → Conversation
  | none => empty
  | some now => new now

/-- A question of one's own is never followed by another one. -/
def Yields (earlier later : Message) : Prop :=
  earlier.role = .user → later.role ≠ .user

/-- The numbers go round behind the last one that fits a word. -/
structure Orderly (conversation : Conversation) : Prop where
  numbered : conversation.messages.map Message.id =
    (List.range' 1 conversation.messages.length).map (· % UInt64.size)
  next : conversation.nextId.toNat = (conversation.messages.length + 1) % UInt64.size
  busy : conversation.isBusy = true ↔
    ∃ message, conversation.messages.getLast? = some message ∧ message.role = .user
  alternating : conversation.messages.IsChain Yields

theorem empty_orderly : Orderly empty where
  numbered := rfl
  next := rfl
  busy := by
    constructor
    · intro busy
      cases busy
    · rintro ⟨message, last, _⟩
      cases last
  alternating := .nil

private theorem add_numbered {conversation : Conversation} (orderly : Orderly conversation)
    (now : Timestamp) (role : Role) (content : String) (links : Option (List SourceLink)) :
    (conversation.add now role content links).messages.map Message.id =
      (List.range' 1 (conversation.add now role content links).messages.length).map
        (· % UInt64.size) := by
  rw [add_messages, List.map_append, List.length_append, List.length_singleton,
    List.range'_concat, List.map_append, orderly.numbered, List.map_singleton,
    List.map_singleton, orderly.next, Nat.one_mul, Nat.add_comm 1]

private theorem add_next {conversation : Conversation} (orderly : Orderly conversation)
    (now : Timestamp) (role : Role) (content : String) (links : Option (List SourceLink)) :
    (conversation.add now role content links).nextId.toNat =
      ((conversation.add now role content links).messages.length + 1) % UInt64.size := by
  have counted : (conversation.add now role content links).nextId.toNat =
      (conversation.nextId.toNat + 1) % UInt64.size := UInt64.toNat_add _ _
  rw [counted, orderly.next]
  simp

/-- Whoever speaks, the conversation waits after it exactly if the user has spoken. Only the user
has to let the assistant finish. -/
theorem Orderly.add {conversation : Conversation} (orderly : Orderly conversation)
    (now : Timestamp) (role : Role) (content : String) (links : Option (List SourceLink))
    (turn : role = .user → conversation.isBusy = false) :
    Orderly { conversation.add now role content links with isBusy := role = .user } where
  numbered := add_numbered orderly now role content links
  next := add_next orderly now role content links
  busy := by
    rw [add_messages, List.getLast?_concat, decide_eq_true_iff]
    constructor
    · intro spoken
      exact ⟨_, rfl, spoken⟩
    · rintro ⟨message, last, spoken⟩
      rw [← Option.some.inj last] at spoken
      exact spoken
  alternating := by
    rw [add_messages]
    apply orderly.alternating.append (.singleton _)
    intro earlier last later new asked spoken
    rw [← Option.some.inj new] at spoken
    have waiting : conversation.isBusy = true := orderly.busy.mpr ⟨earlier, last, asked⟩
    rw [turn spoken] at waiting
    cases waiting

theorem opened_orderly (opening : Option Timestamp) : Orderly (opened opening) := by
  cases opening with
  | none => exact empty_orderly
  | some now =>
      exact empty_orderly.add now .assistant greeting none (by intro spoken; cases spoken)

theorem receive_question (conversation : Conversation) (now : Timestamp) (text : String) :
    conversation.receive (.question now text) =
      if isBlank text = true ∨ conversation.isBusy = true then (none, conversation)
      else (some (Query.ofText text),
        { conversation.add now .user text none with isBusy := true }) := by
  split
  · rename_i refused
    simp only [receive, (ask?_eq_none_iff conversation now text).mpr refused]
  · rename_i taken
    rw [not_or, Bool.not_eq_true, Bool.not_eq_true] at taken
    simp only [receive, ask?_of_taken now taken.1 taken.2]

theorem receive_cases (conversation : Conversation) (call : Call) :
    (∃ now text, call = .question now text ∧
      (isBlank text = true ∨ conversation.isBusy = true) ∧
      conversation.receive call = (none, conversation)) ∨
    (∃ now text, call = .question now text ∧ isBlank text = false ∧
      conversation.isBusy = false ∧
      conversation.receive call = (some (Query.ofText text),
        { conversation.add now .user text none with isBusy := true })) ∨
    (∃ now reply, call = .reply now reply ∧
      conversation.receive call = (none, conversation.answer now reply)) := by
  cases call with
  | reply now reply => exact Or.inr (Or.inr ⟨now, reply, rfl, rfl⟩)
  | question now text =>
      rw [receive_question]
      split
      · rename_i refused
        exact Or.inl ⟨now, text, rfl, refused, rfl⟩
      · rename_i taken
        rw [not_or, Bool.not_eq_true, Bool.not_eq_true] at taken
        exact Or.inr (Or.inl ⟨now, text, rfl, taken.1, taken.2, rfl⟩)

theorem Orderly.receive {conversation : Conversation} (orderly : Orderly conversation)
    (call : Call) : Orderly (conversation.receive call).2 := by
  rcases conversation.receive_cases call with
    ⟨now, text, _, _, refused⟩ | ⟨now, text, _, _, free, taken⟩ | ⟨now, reply, _, given⟩
  · rw [refused]
    exact orderly
  · rw [taken]
    exact orderly.add now .user text none (fun _ => free)
  · rw [given]
    exact orderly.add now .assistant reply.content reply.links
      (by intro spoken; cases spoken)

theorem Orderly.after {conversation : Conversation} (orderly : Orderly conversation)
    (calls : List Call) : Orderly (conversation.after calls) := by
  induction calls generalizing conversation with
  | nil => exact orderly
  | cons call calls ih => exact ih (orderly.receive call)

/-- As long as a word holds the numbers, they count the messages. -/
theorem Orderly.counted {conversation : Conversation} (orderly : Orderly conversation)
    (fits : conversation.messages.length < UInt64.size - 1) :
    conversation.messages.map Message.id = List.range' 1 conversation.messages.length ∧
      conversation.nextId.toNat = conversation.messages.length + 1 := by
  constructor
  · rw [orderly.numbered]
    conv_rhs => rw [← List.map_id (List.range' 1 conversation.messages.length)]
    apply List.map_congr_left
    intro number member
    rw [List.mem_range'_1] at member
    exact Nat.mod_eq_of_lt (by omega)
  · rw [orderly.next]
    exact Nat.mod_eq_of_lt (by omega)

theorem receive_question_eq_none_iff (conversation : Conversation) (now : Timestamp)
    (text : String) :
    (conversation.receive (.question now text)).1 = none ↔
      Text.trim text.toList = [] ∨ conversation.isBusy = true := by
  have blank : isBlank text = true ↔ Text.trim text.toList = [] := List.isEmpty_iff
  rw [← blank]
  rw [receive_question]
  split
  · rename_i refused
    exact iff_of_true rfl refused
  · rename_i taken
    exact iff_of_false (by intro impossible; cases impossible) taken

theorem receive_question_of_none {conversation : Conversation} {now : Timestamp}
    {text : String} (refused : (conversation.receive (.question now text)).1 = none) :
    (conversation.receive (.question now text)).2 = conversation := by
  rw [receive_question] at refused ⊢
  split at refused
  · rename_i reason
    rw [if_pos reason]
  · cases refused

theorem receive_question_of_some {conversation : Conversation} {now : Timestamp}
    {text : String} {query : Query}
    (taken : (conversation.receive (.question now text)).1 = some query) :
    (conversation.receive (.question now text)).2.messages = conversation.messages ++
      [⟨conversation.nextId.toNat, .user, text, now, none⟩] := by
  rw [receive_question] at taken ⊢
  split at taken
  · cases taken
  · rename_i free
    rw [if_neg free]
    rfl

/-- The numbers count the messages as long as they fit a word; the conversation waits exactly if
the user has spoken last, which never happens twice in a row; and each further call adds one
message behind the others or, if it is a question that is refused, leaves all as it is. -/
theorem opened_after_calls (opening : Option Timestamp) (calls : List Call) :
    let conversation := (opened opening).after calls
    (conversation.messages.length < UInt64.size - 1 →
      conversation.messages.map Message.id = List.range' 1 conversation.messages.length ∧
        conversation.nextId.toNat = conversation.messages.length + 1) ∧
    (conversation.isBusy = true ↔
      ∃ message, conversation.messages.getLast? = some message ∧ message.role = .user) ∧
    conversation.messages.IsChain Yields ∧
    (∀ now text, (conversation.receive (.question now text)).1 = none ↔
      Text.trim text.toList = [] ∨ conversation.isBusy = true) ∧
    (∀ now text, (conversation.receive (.question now text)).1 = none →
      (conversation.receive (.question now text)).2 = conversation) ∧
    (∀ now text query, (conversation.receive (.question now text)).1 = some query →
      (conversation.receive (.question now text)).2.messages = conversation.messages ++
        [⟨conversation.nextId.toNat, .user, text, now, none⟩]) ∧
    (∀ now reply, (conversation.receive (.reply now reply)).2.messages =
      conversation.messages ++
        [⟨conversation.nextId.toNat, .assistant, reply.content, now, reply.links⟩]) := by
  intro conversation
  have orderly : Orderly conversation := (opened_orderly opening).after calls
  refine ⟨orderly.counted, orderly.busy, orderly.alternating, ?_, ?_, ?_, ?_⟩
  · intro now text
    exact receive_question_eq_none_iff conversation now text
  · intro now text refused
    exact receive_question_of_none refused
  · intro now text query taken
    exact receive_question_of_some taken
  · intro now reply
    rfl

/-- The assistant answers twice in a row, and two questions are refused. -/
theorem opened_after_calls_out_of_turn :
    let midnight : Timestamp := ⟨⟨2024, 1, 1⟩, 0, 0, 0, 0, 0⟩
    let conversation := (opened (some midnight)).after
      [.reply midnight .failure, .question midnight "2+2", .question midnight "3+3",
        .reply midnight .failure, .reply midnight .failure, .question midnight " "]
    conversation.messages.length < UInt64.size - 1 ∧
      conversation.messages.map Message.id = [1, 2, 3, 4, 5] ∧
      conversation.nextId.toNat = 6 := by
  intro midnight conversation
  have five : conversation.messages.length = 5 := by decide
  have fits : conversation.messages.length < UInt64.size - 1 := by rw [five]; decide
  have counted := (opened_after_calls (some midnight) _).1 fits
  rw [five] at counted
  exact ⟨fits, counted⟩

end ChatAssistant.Conversation
