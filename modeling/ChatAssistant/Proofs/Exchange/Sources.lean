import ChatAssistant.Proofs.Conversation.Ordering
import ChatAssistant.Proofs.Exchange.Sequence

/-!
Where the links under a message come from. Only the reply to a question that was searched for has
links, and they are the addresses that the search gave for this very question. No reply is empty.
-/

namespace ChatAssistant

/-- The hits that lead anywhere, in their order, as links. What a hit leaves open is empty. -/
def SearchAnswer.sources (answer : SearchAnswer) : List SourceLink :=
  ((answer.hits.getD []).filter fun hit => hit.url.getD "" ≠ "").map fun hit =>
    ⟨hit.title.getD "", hit.snippet.getD "", hit.url.getD ""⟩

theorem SearchAnswer.url_of_mem_sources {answer : SearchAnswer} {link : SourceLink}
    (member : link ∈ answer.sources) : link.url ≠ "" := by
  unfold sources at member
  obtain ⟨hit, kept, rfl⟩ := List.mem_map.mp member
  exact of_decide_eq_true (List.mem_filter.mp kept).2

namespace Reply

theorem linksOf_eq_sources (hits : List Hit) : linksOf hits = SearchAnswer.sources ⟨some hits⟩ := by
  unfold linksOf SearchAnswer.sources
  rw [List.filter_map, Option.getD_some]
  congr 1
  apply List.filter_congr
  intro hit _
  rw [Function.comp_apply, Bool.eq_iff_iff, Bool.not_eq_true', String.isEmpty_eq_false_iff,
    decide_eq_true_iff]
  rfl

/-- The four ends of a search: no hits, a first hit that says nothing, and a first hit that is
quoted, with links or without. -/
theorem ofSearchAnswer_cases (query : String) (answer : SearchAnswer) :
    answer.hits.getD [] = [] ∧ ofSearchAnswer query answer = nothingFound ∨
    ofSearchAnswer query answer = nothingSpecific query ∨
    ∃ snippet, ofSearchAnswer query answer = found query snippet (answer.hits.getD []) := by
  unfold ofSearchAnswer
  split
  · rename_i none
    exact Or.inl ⟨none, rfl⟩
  · rename_i first more some
    split
    · exact Or.inr (Or.inl rfl)
    · rename_i snippet _
      exact Or.inr (Or.inr ⟨snippet, by rw [some]⟩)

theorem links_found (query snippet : String) (hits : List Hit) (links : List SourceLink) :
    (found query snippet hits).links = some links ↔
      links = SearchAnswer.sources ⟨some hits⟩ ∧ links ≠ [] := by
  unfold found
  rw [linksOf_eq_sources]
  split
  · rename_i none
    rw [List.isEmpty_iff] at none
    rw [none]
    simp
  · rename_i some
    rw [List.isEmpty_iff] at some
    constructor
    · rintro ⟨⟩
      exact ⟨rfl, some⟩
    · rintro ⟨rfl, _⟩
      rfl

theorem sources_of_links {query : String} {answer : SearchAnswer} {links : List SourceLink}
    (linked : (ofSearchAnswer query answer).links = some links) :
    links = answer.sources ∧ links ≠ [] := by
  rcases ofSearchAnswer_cases query answer with ⟨_, ended⟩ | ended | ⟨snippet, ended⟩
  · rw [ended] at linked
    cases linked
  · rw [ended] at linked
    cases linked
  · rw [ended, links_found] at linked
    exact linked

theorem links_ofMathAnswer (answer : MathAnswer) : (ofMathAnswer answer).links = none := by
  unfold ofMathAnswer unsolved
  split
  · split <;> rfl
  · split <;> rfl
  · rfl

private theorem append_ne_empty {front : String} (back : String) (some : front ≠ "") :
    front ++ back ≠ "" :=
  fun empty => some (String.append_eq_empty_iff.mp empty).1

theorem content_ofMathAnswer (answer : MathAnswer) : (ofMathAnswer answer).content ≠ "" := by
  have unsolvedContent : (unsolved answer).content ≠ "" := by
    unfold unsolved
    split
    · rename_i error _
      by_cases empty : error.isEmpty = true
      · rw [if_pos empty]
        decide
      · rw [if_neg empty]
        exact fun same => empty (String.isEmpty_iff.mpr same)
    · decide
  unfold ofMathAnswer
  split
  · exact unsolvedContent
  · exact unsolvedContent
  · have announced : answer.explanation.getD "" ++ "\n\nОтвет: " ≠ "" := by
      intro empty
      exact absurd (String.append_eq_empty_iff.mp empty).2 (by decide)
    exact append_ne_empty _ (append_ne_empty _ announced)

theorem content_failure : failure.content ≠ "" := by decide +kernel

theorem content_ofSearchAnswer (query : String) (answer : SearchAnswer) :
    (ofSearchAnswer query answer).content ≠ "" := by
  rcases ofSearchAnswer_cases query answer with ⟨_, ended⟩ | ended | ⟨snippet, ended⟩
  · rw [ended]
    decide
  · rw [ended]
    exact append_ne_empty _ (append_ne_empty _ (by decide))
  · rw [ended]
    exact append_ne_empty _ (append_ne_empty _ (append_ne_empty _ (by decide)))

end Reply

namespace Backends

theorem content_reply (backends : Backends) (calls : Calls) (text : String) :
    (backends.reply calls text).content ≠ "" := by
  unfold reply
  split
  · cases backends.math (calls.count .math) text with
    | ok answer => exact Reply.content_ofMathAnswer answer
    | error failure => exact Reply.content_failure
  · cases backends.search (calls.count .search) text with
    | ok answer => exact Reply.content_ofSearchAnswer text answer
    | error failure => exact Reply.content_failure

/-- A reply with links answers a question that was searched for, and the links are those of what
the search found. -/
theorem searched_of_links {backends : Backends} {calls : Calls} {text : String}
    {links : List SourceLink} (linked : (backends.reply calls text).links = some links) :
    Route.ofText text = .search ∧ links ≠ [] ∧
      ∃ answer, backends.search (calls.count .search) text = .ok answer ∧
        links = answer.sources := by
  unfold reply at linked
  cases routed : Route.ofText text with
  | math =>
      rw [routed] at linked
      cases outcome : backends.math (calls.count .math) text with
      | ok answer =>
          rw [outcome] at linked
          have unlinked := Reply.links_ofMathAnswer answer
          rw [Reply.ofOutcome, unlinked] at linked
          cases linked
      | error failure =>
          rw [outcome] at linked
          cases linked
  | search =>
      rw [routed] at linked
      cases outcome : backends.search (calls.count .search) text with
      | ok answer =>
          rw [outcome] at linked
          obtain ⟨sources, some⟩ := Reply.sources_of_links linked
          exact ⟨rfl, some, answer, rfl, sources⟩
      | error failure =>
          rw [outcome] at linked
          cases linked

end Backends

def searchesIn (messages : List Message) : Nat :=
  messages.countP fun message => message.role = .user && Route.ofText message.content = .search

theorem searchesIn_turn (messages : List Message) {question reply : Message}
    (asked : question.role = .user) (replied : reply.role = .assistant) :
    searchesIn (messages ++ [question] ++ [reply]) =
      searchesIn messages + if Route.search = Route.ofText question.content then 1 else 0 := by
  rw [searchesIn, List.countP_append, List.countP_append, List.countP_singleton,
    List.countP_singleton, asked, replied]
  cases Route.ofText question.content with
  | math => rfl
  | search => rfl

namespace Exchange

/-- Right before the links stands the question they answer. The search has been asked it after the
earlier ones. -/
def Answered (backends : Backends) (before : List Message) (links : List SourceLink) : Prop :=
  ∃ earlier question answer, before = earlier ++ [question] ∧ question.role = .user ∧
    Route.ofText question.content = .search ∧
    backends.search (searchesIn earlier) question.content = .ok answer ∧ links = answer.sources

structure Sourced (backends : Backends) (exchange : Exchange) : Prop where
  free : exchange.conversation.isBusy = false
  counted : exchange.calls.search.length = searchesIn exchange.conversation.messages
  linked : ∀ before message links, before ++ [message] <+: exchange.conversation.messages →
    message.links = some links →
      message.role = .assistant ∧ links ≠ [] ∧ Answered backends before links
  spoken : ∀ message ∈ exchange.conversation.messages, message.role = .assistant →
    message.content ≠ ""

theorem opened_sourced (backends : Backends) (opening : Option Timestamp) :
    Sourced backends { conversation := .opened opening } where
  free := by cases opening <;> rfl
  counted := by cases opening <;> rfl
  linked := by
    intro before message links placed linked
    have unlinked : ∀ message ∈ (Conversation.opened opening).messages, message.links = none := by
      cases opening with
      | none => exact List.forall_mem_nil _
      | some now => exact List.forall_mem_singleton.mpr rfl
    have member : message ∈ before ++ [message] := List.mem_append_right _ List.mem_cons_self
    rw [unlinked message (placed.subset member)] at linked
    cases linked
  spoken := by
    cases opening with
    | none => exact List.forall_mem_nil _
    | some now =>
        have greeted : Conversation.greeting ≠ "" := by decide
        exact List.forall_mem_singleton.mpr (fun _ => greeted)

theorem send_of_taken (backends : Backends) {exchange : Exchange} (now : Timestamp)
    {text : String} (free : exchange.conversation.isBusy = false)
    (spoken : Conversation.isBlank text = false) :
    ∃ question reply, (exchange.send backends now text).2.conversation.messages =
        exchange.conversation.messages ++ [question] ++ [reply] ∧
      question.utterance = .question text ∧
      reply.utterance = .answer (backends.reply exchange.calls text) := by
  have taken := Conversation.ask?_of_taken now spoken free
  simp only [send, taken, resolve_eq]
  exact ⟨_, _, rfl, rfl, rfl⟩

theorem Sourced.send {backends : Backends} {exchange : Exchange}
    (sourced : Sourced backends exchange) (now : Timestamp) (text : String) :
    Sourced backends (exchange.send backends now text).2 := by
  cases blank : Conversation.isBlank text with
  | true =>
      rw [exchange.send_of_blank backends now blank]
      exact sourced
  | false =>
      obtain ⟨_, carried⟩ := send_of_spoken backends now sourced.free blank
      obtain ⟨question, reply, messages, asked, replied⟩ :=
        send_of_taken backends now sourced.free blank
      have questionRole : question.role = .user := congrArg Utterance.role asked
      have questionContent : question.content = text := congrArg Utterance.content asked
      have questionLinks : question.links = none := congrArg Utterance.links asked
      have replyRole : reply.role = .assistant := congrArg Utterance.role replied
      refine ⟨carried.free, ?_, ?_, ?_⟩
      · have routed := exchange.calls.count_after_singleton text .search
        rw [carried.called, messages, searchesIn_turn _ questionRole replyRole, questionContent,
          ← sourced.counted]
        exact routed
      · intro before message links placed linked
        rw [messages, List.prefix_concat_iff, List.prefix_concat_iff,
          List.append_singleton_inj, List.append_singleton_inj] at placed
        rcases placed with ⟨rfl, rfl⟩ | ⟨rfl, rfl⟩ | earlier
        · have given : (backends.reply exchange.calls text).links = some links := by
            rw [← linked]
            exact (congrArg Utterance.links replied).symm
          obtain ⟨routed, some, answer, answered, sources⟩ := Backends.searched_of_links given
          refine ⟨replyRole, some, exchange.conversation.messages, question, answer, rfl,
            questionRole, ?_, ?_, sources⟩
          · rw [questionContent, routed]
          · rw [questionContent, ← sourced.counted]
            exact answered
        · rw [questionLinks] at linked
          cases linked
        · exact sourced.linked before message links earlier linked
      · intro message member role
        rw [messages, List.mem_append, List.mem_append, List.mem_singleton,
          List.mem_singleton] at member
        rcases member with (member | rfl) | rfl
        · exact sourced.spoken message member role
        · rw [questionRole] at role
          cases role
        · have content : message.content = (backends.reply exchange.calls text).content :=
            congrArg Utterance.content replied
          rw [content]
          exact backends.content_reply exchange.calls text

theorem Sourced.sendAll {backends : Backends} {exchange : Exchange}
    (sourced : Sourced backends exchange) (inputs : List (Timestamp × String)) :
    Sourced backends (exchange.sendAll backends inputs).2 := by
  induction inputs generalizing exchange with
  | nil => exact sourced
  | cons input inputs ih => exact ih (sourced.send input.1 input.2)

/-- After any run, a message with links is the reply to the question right before it, which was
searched for, and its links are the hits of this search that lead anywhere, all of them and in their
order. No reply is empty. -/
theorem sendAll_sources (backends : Backends) (opening : Option Timestamp)
    (inputs : List (Timestamp × String)) :
    let started : Exchange := { conversation := .opened opening }
    let messages := (started.sendAll backends inputs).2.conversation.messages
    (∀ before message links, before ++ [message] <+: messages → message.links = some links →
      message.role = .assistant ∧ links ≠ [] ∧ (∀ link ∈ links, link.url ≠ "") ∧
        message.visibleLinks = links ∧
        ∃ earlier question answer, before = earlier ++ [question] ∧ question.role = .user ∧
          Route.ofText question.content = .search ∧
          backends.search (searchesIn earlier) question.content = .ok answer ∧
          links = ((answer.hits.getD []).filter fun hit => hit.url.getD "" ≠ "").map fun hit =>
            ⟨hit.title.getD "", hit.snippet.getD "", hit.url.getD ""⟩) ∧
    (∀ message ∈ messages, message.role = .assistant → message.content ≠ "") := by
  intro started messages
  have sourced := (opened_sourced backends opening).sendAll inputs
  refine ⟨?_, sourced.spoken⟩
  intro before message links placed linked
  obtain ⟨role, some, answered⟩ := sourced.linked before message links placed linked
  obtain ⟨earlier, question, answer, split, asker, routed, found, rfl⟩ := answered
  have reachable : ∀ link ∈ answer.sources, link.url ≠ "" :=
    fun link member => SearchAnswer.url_of_mem_sources member
  refine ⟨role, some, reachable, ?_, earlier, question, answer, split, asker, routed, found, rfl⟩
  rw [Message.visibleLinks, linked, Option.getD_some, List.filter_eq_self]
  intro link member
  rw [Bool.not_eq_true', String.isEmpty_eq_false_iff]
  exact reachable link member

/-- The second search finds two hits, and the one that leads anywhere has no title. -/
theorem sendAll_sources_second :
    let midnight : Timestamp := ⟨⟨2024, 1, 1⟩, 0, 0, 0, 0, 0⟩
    let search : Nat → String → Except BackendFailure SearchAnswer := fun call _ =>
      if call = 0 then .error .unreachable
      else .ok ⟨some [⟨none, some "a language", none⟩, ⟨none, none, some "https://rust"⟩]⟩
    let backends : Backends := ⟨fun _ _ => .error .unreachable, search⟩
    let started : Exchange := { conversation := .opened none }
    let inputs := [(midnight, "Lean"), (midnight, "2+2"), (midnight, "Rust")]
    let messages := (started.sendAll backends inputs).2.conversation.messages
    ∃ before message, before ++ [message] = messages ∧
      message.links = some [⟨"", "", "https://rust"⟩] ∧
      message.visibleLinks = [⟨"", "", "https://rust"⟩] ∧
      ∃ earlier question answer, before = earlier ++ [question] ∧
        Route.ofText question.content = .search ∧
        backends.search (searchesIn earlier) question.content = .ok answer := by
  intro midnight search backends started inputs messages
  have split : messages.take 5 ++ [messages[5]] = messages := by decide +kernel
  have linked : messages[5].links = some [⟨"", "", "https://rust"⟩] := by decide
  have placed : messages.take 5 ++ [messages[5]] <+: messages :=
    ⟨[], (List.append_nil _).trans split⟩
  obtain ⟨_, _, _, visible, earlier, question, answer, before, _, routed, found, _⟩ :=
    (sendAll_sources backends none inputs).1 _ _ _ placed linked
  exact ⟨_, _, split, linked, visible, earlier, question, answer, before, routed, found⟩

end Exchange

end ChatAssistant
