import ChatAssistant.Backend.Exchange
import ChatAssistant.Proofs.Dialogue

/-!
Texts sent one after another: which of them are taken, what each backend is asked, and what is
said. A call that fails costs the reply of its own turn and nothing else.
-/

namespace ChatAssistant

open Utterance (dialogue question answer)

namespace Calls

def count (calls : Calls) : Route → Nat
  | .math => calls.math.length
  | .search => calls.search.length

/-- The calls made once texts have been taken: each text goes to one backend, as its route
says. -/
def after (calls : Calls) (texts : List String) : Calls where
  math := calls.math ++ texts.filter (Route.ofText · = .math)
  search := calls.search ++ texts.filter (Route.ofText · ≠ .math)

@[simp]
theorem after_nil (calls : Calls) : calls.after [] = calls := by
  simp only [after, List.filter_nil, List.append_nil]

@[simp]
theorem after_cons (calls : Calls) (text : String) (texts : List String) :
    calls.after (text :: texts) = (calls.after [text]).after texts := by
  cases routed : Route.ofText text <;>
    simp [after, routed]

theorem count_after_singleton (calls : Calls) (text : String) (route : Route) :
    (calls.after [text]).count route =
      calls.count route + if route = Route.ofText text then 1 else 0 := by
  cases routed : Route.ofText text <;> cases route <;>
    simp [after, count, routed]

theorem count_le_after (calls : Calls) (texts : List String) (route : Route) :
    calls.count route ≤ (calls.after texts).count route := by
  cases route with
  | math =>
      simp only [after, count, List.length_append]
      exact Nat.le_add_right _ _
  | search =>
      simp only [after, count, List.length_append]
      exact Nat.le_add_right _ _

end Calls

namespace Backends

def reply (backends : Backends) (calls : Calls) (text : String) : Reply :=
  match Route.ofText text with
  | .math => .ofOutcome .ofMathAnswer (backends.math (calls.count .math) text)
  | .search => .ofOutcome (.ofSearchAnswer text) (backends.search (calls.count .search) text)

def turns (backends : Backends) : Calls → List String → List (String × Reply)
  | _, [] => []
  | calls, text :: texts =>
      (text, backends.reply calls text) :: backends.turns (calls.after [text]) texts

/-- The same backends, except that the call of this number on a route fails. -/
def failing (backends : Backends) (route : Route) (number : Nat) (failure : BackendFailure) :
    Backends where
  math call expression :=
    if route = .math ∧ call = number then .error failure else backends.math call expression
  search call query :=
    if route = .search ∧ call = number then .error failure else backends.search call query

theorem reply_failing (backends : Backends) (calls : Calls) (text : String) (route : Route)
    (number : Nat) (failure : BackendFailure) :
    (backends.failing route number failure).reply calls text =
      if route = Route.ofText text ∧ calls.count route = number then .failure
      else backends.reply calls text := by
  unfold reply
  cases routed : Route.ofText text with
  | math =>
      cases route with
      | math =>
          simp only [failing, true_and]
          split
          · rfl
          · rfl
      | search => simp only [failing, reduceCtorEq, false_and, if_false]
  | search =>
      cases route with
      | math => simp only [failing, reduceCtorEq, false_and, if_false]
      | search =>
          simp only [failing, true_and]
          split
          · rfl
          · rfl

theorem turns_getElem? (backends : Backends) {calls : Calls} {texts : List String}
    {place : Nat} {text : String} (taken : texts[place]? = some text) :
    (backends.turns calls texts)[place]? =
      some (text, backends.reply (calls.after (texts.take place)) text) := by
  induction texts generalizing calls place with
  | nil => cases taken
  | cons head texts ih =>
      cases place with
      | zero =>
          rw [List.getElem?_cons_zero] at taken
          rw [Option.some.inj taken, List.take_zero, Calls.after_nil]
          rfl
      | succ place =>
          rw [List.getElem?_cons_succ] at taken
          rw [List.take_succ_cons, Calls.after_cons]
          exact ih taken

theorem turns_failing_of_lt (backends : Backends) {calls : Calls} {route : Route}
    {number : Nat} (made : number < calls.count route) (failure : BackendFailure)
    (texts : List String) :
    (backends.failing route number failure).turns calls texts = backends.turns calls texts := by
  induction texts generalizing calls with
  | nil => rfl
  | cons text texts ih =>
      have later : number < (calls.after [text]).count route :=
        Nat.lt_of_lt_of_le made (calls.count_le_after [text] route)
      have other : ¬(route = Route.ofText text ∧ calls.count route = number) := by
        rintro ⟨_, same⟩
        omega
      simp only [turns, reply_failing, if_neg other, ih later]

theorem turns_failing (backends : Backends) {calls : Calls} {texts : List String}
    {place : Nat} {text : String} (taken : texts[place]? = some text)
    (failure : BackendFailure) :
    (backends.failing (Route.ofText text)
        ((calls.after (texts.take place)).count (Route.ofText text)) failure).turns
      calls texts = (backends.turns calls texts).set place (text, .failure) := by
  induction texts generalizing calls place with
  | nil => cases taken
  | cons head texts ih =>
      cases place with
      | zero =>
          rw [List.getElem?_cons_zero] at taken
          have same : head = text := Option.some.inj taken
          subst same
          have made : calls.count (Route.ofText head) <
              (calls.after [head]).count (Route.ofText head) := by
            rw [Calls.count_after_singleton, if_pos rfl]
            omega
          simp only [List.take_zero, Calls.after_nil, turns, reply_failing, and_self, if_true,
            List.set_cons_zero, turns_failing_of_lt backends made]
      | succ place =>
          rw [List.getElem?_cons_succ] at taken
          have other : ¬(Route.ofText text = Route.ofText head ∧ calls.count (Route.ofText text) =
              ((calls.after [head]).after (texts.take place)).count (Route.ofText text)) := by
            rintro ⟨same, equal⟩
            have more := (calls.after [head]).count_le_after (texts.take place)
              (Route.ofText text)
            rw [Calls.count_after_singleton, if_pos same] at more
            omega
          rw [List.take_succ_cons, Calls.after_cons]
          simp only [turns, reply_failing, if_neg other, List.set_cons_succ, ih taken]

end Backends

namespace Exchange

/-- Sends texts one after another, each at its own time. Says of each whether it was taken. -/
def sendAll (exchange : Exchange) (backends : Backends) :
    List (Timestamp × String) → List Bool × Exchange
  | [] => ([], exchange)
  | (now, text) :: inputs =>
      let (isTaken, after) := exchange.send backends now text
      let (areTaken, last) := after.sendAll backends inputs
      (isTaken :: areTaken, last)

def spoken (inputs : List (Timestamp × String)) : List String :=
  (inputs.map Prod.snd).filter (!Conversation.isBlank ·)

/-- What becomes of an exchange in which texts are taken one after another. -/
structure Carries (backends : Backends) (before : Exchange) (texts : List String)
    (after : Exchange) : Prop where
  free : after.conversation.isBusy = false
  kept : before.conversation.messages <+: after.conversation.messages
  said : after.conversation.utterances =
    before.conversation.utterances ++ dialogue (backends.turns before.calls texts)
  called : after.calls = before.calls.after texts

theorem Carries.refl (backends : Backends) {exchange : Exchange}
    (free : exchange.conversation.isBusy = false) : Carries backends exchange [] exchange where
  free := free
  kept := List.prefix_refl _
  said := by simp only [Backends.turns, dialogue, List.append_nil]
  called := (Calls.after_nil exchange.calls).symm

theorem Carries.cons {backends : Backends} {before between after : Exchange} {text : String}
    {texts : List String} (first : Carries backends before [text] between)
    (rest : Carries backends between texts after) :
    Carries backends before (text :: texts) after where
  free := rest.free
  kept := first.kept.trans rest.kept
  said := by
    rw [rest.said, first.said, first.called, List.append_assoc, ← Utterance.dialogue_append]
    rfl
  called := by rw [rest.called, first.called, ← Calls.after_cons]

theorem resolve_eq (backends : Backends) (calls : Calls) (text : String) :
    calls.resolve backends (Query.ofText text) =
      (backends.reply calls text, calls.after [text]) := by
  cases routed : Route.ofText text <;>
    simp [Query.ofText, Calls.resolve, Backends.reply, Calls.after, Calls.count, routed]

theorem send_of_blank (exchange : Exchange) (backends : Backends) (now : Timestamp)
    {text : String} (blank : Conversation.isBlank text = true) :
    exchange.send backends now text = (false, exchange) := by
  have refused := exchange.conversation.ask?_of_blank now blank
  simp only [send, refused]

theorem send_of_spoken (backends : Backends) {exchange : Exchange} (now : Timestamp)
    {text : String} (free : exchange.conversation.isBusy = false)
    (spoken : Conversation.isBlank text = false) :
    (exchange.send backends now text).1 = true ∧
      Carries backends exchange [text] (exchange.send backends now text).2 := by
  have taken := Conversation.ask?_of_taken now spoken free
  simp only [send, taken, resolve_eq]
  refine ⟨trivial, rfl, ?_, ?_, rfl⟩
  · exact (List.prefix_append _ _).trans (List.prefix_append _ _)
  · have asked := exchange.conversation.utterances_add now .user text none
    rw [Conversation.utterances_answer]
    change (exchange.conversation.add now .user text none).utterances ++ _ = _
    rw [asked, List.append_assoc]
    rfl

theorem sendAll_carries (backends : Backends) {exchange : Exchange}
    (free : exchange.conversation.isBusy = false) (inputs : List (Timestamp × String)) :
    (exchange.sendAll backends inputs).1 =
        inputs.map (fun input => !Conversation.isBlank input.2) ∧
      Carries backends exchange (spoken inputs) (exchange.sendAll backends inputs).2 := by
  induction inputs generalizing exchange with
  | nil => exact ⟨rfl, .refl backends free⟩
  | cons input inputs ih =>
      obtain ⟨now, text⟩ := input
      cases blank : Conversation.isBlank text with
      | true =>
          have unsent := exchange.send_of_blank backends now blank
          obtain ⟨answers, carried⟩ := ih free
          have silent : spoken ((now, text) :: inputs) = spoken inputs := by
            simp [spoken, blank]
          simp only [sendAll, unsent, answers, silent, List.map_cons, blank, Bool.not_true]
          exact ⟨trivial, carried⟩
      | false =>
          obtain ⟨isTaken, first⟩ := send_of_spoken backends now free blank
          obtain ⟨answers, rest⟩ := ih first.free
          have heard : spoken ((now, text) :: inputs) = text :: spoken inputs := by
            simp [spoken, blank]
          simp only [sendAll, isTaken, answers, heard, List.map_cons, blank, Bool.not_false]
          exact ⟨trivial, first.cons rest⟩

theorem sendAll_failing (backends : Backends) {exchange : Exchange}
    (free : exchange.conversation.isBusy = false) (inputs : List (Timestamp × String))
    {place : Nat} {text : String} (taken : (spoken inputs)[place]? = some text)
    (failure : BackendFailure) :
    let route := Route.ofText text
    let number := (exchange.calls.after ((spoken inputs).take place)).count route
    let failed := exchange.sendAll (backends.failing route number failure) inputs
    let last := exchange.sendAll backends inputs
    failed.1 = last.1 ∧ failed.2.calls = last.2.calls ∧
      failed.2.conversation.utterances = last.2.conversation.utterances.set
        (exchange.conversation.messages.length + (2 * place + 1)) (answer .failure) := by
  intro route number failed last
  obtain ⟨answers, carried⟩ := sendAll_carries backends free inputs
  obtain ⟨failedAnswers, failedCarried⟩ :=
    sendAll_carries (backends.failing route number failure) free inputs
  refine ⟨failedAnswers.trans answers.symm, failedCarried.called.trans carried.called.symm, ?_⟩
  have turned : (backends.failing route number failure).turns exchange.calls (spoken inputs) =
      (backends.turns exchange.calls (spoken inputs)).set place (text, .failure) :=
    backends.turns_failing taken failure
  have replied : (backends.turns exchange.calls (spoken inputs))[place]? =
      some (text, backends.reply (exchange.calls.after ((spoken inputs).take place)) text) :=
    backends.turns_getElem? taken
  rw [failedCarried.said, carried.said, turned, Utterance.dialogue_set replied,
    ← exchange.conversation.utterances_length, List.set_append_right _ _ (Nat.le_add_right _ _),
    Nat.add_sub_cancel_left]

/-- Exactly the texts that say anything are taken. Each of them goes once to the backend of its
route, and is followed by the reply to itself; a call that fails costs this reply alone. -/
theorem sendAll_of_free (backends : Backends) {exchange : Exchange}
    (free : exchange.conversation.isBusy = false) (inputs : List (Timestamp × String)) :
    let taken := spoken inputs
    let last := (exchange.sendAll backends inputs).2
    (exchange.sendAll backends inputs).1 =
      inputs.map (fun input => !Conversation.isBlank input.2) ∧
    exchange.conversation.messages <+: last.conversation.messages ∧
    last.conversation.utterances = exchange.conversation.utterances ++
      dialogue (backends.turns exchange.calls taken) ∧
    last.calls.math = exchange.calls.math ++ taken.filter (Route.ofText · = .math) ∧
    last.calls.search = exchange.calls.search ++ taken.filter (Route.ofText · ≠ .math) ∧
    (∀ place text failure, taken[place]? = some text →
      let route := Route.ofText text
      let number := (exchange.calls.after (taken.take place)).count route
      let failed := exchange.sendAll (backends.failing route number failure) inputs
      failed.1 = (exchange.sendAll backends inputs).1 ∧ failed.2.calls = last.calls ∧
        failed.2.conversation.utterances = last.conversation.utterances.set
          (exchange.conversation.messages.length + (2 * place + 1)) (answer .failure)) ∧
    (∀ count, (exchange.sendAll backends (inputs.take count)).2.conversation.isBusy = false) := by
  intro taken last
  obtain ⟨answers, carried⟩ := sendAll_carries backends free inputs
  refine ⟨answers, carried.kept, carried.said, ?_, ?_, ?_, ?_⟩
  · exact congrArg Calls.math carried.called
  · exact congrArg Calls.search carried.called
  · intro place text failure at_place
    exact sendAll_failing backends free inputs at_place failure
  · intro count
    exact (sendAll_carries backends free (inputs.take count)).2.free

/-- A sum that cannot be worked out, a blank, and a question to which nothing is found. -/
theorem sendAll_of_free_greeted :
    let midnight : Timestamp := ⟨⟨2024, 1, 1⟩, 0, 0, 0, 0, 0⟩
    let backends : Backends := ⟨fun _ _ => .error .unreachable, fun _ _ => .ok ⟨none⟩⟩
    let greeted : Exchange := { conversation := .new midnight }
    let inputs := [(midnight, "2+2"), (midnight, " \n"), (midnight, "Rust")]
    greeted.conversation.isBusy = false ∧
      (greeted.sendAll backends inputs).1 = [true, false, true] ∧
      (greeted.sendAll backends inputs).2.calls = ⟨["2+2"], ["Rust"]⟩ ∧
      (greeted.sendAll backends inputs).2.conversation.utterances =
        greeted.conversation.utterances ++
          [question "2+2", answer .failure, question "Rust", answer .nothingFound] := by
  intro midnight backends greeted inputs
  have free : greeted.conversation.isBusy = false := rfl
  have taken : spoken inputs = ["2+2", "Rust"] := by decide
  have sum : Route.ofText "2+2" = .math := by decide
  have name : Route.ofText "Rust" = .search := by decide
  obtain ⟨answers, _, said, math, search, _⟩ := sendAll_of_free backends free inputs
  rw [taken] at said math search
  refine ⟨free, ?_, ?_, ?_⟩
  · rw [answers]
    decide
  · have called : (greeted.sendAll backends inputs).2.calls =
        ⟨(greeted.sendAll backends inputs).2.calls.math,
          (greeted.sendAll backends inputs).2.calls.search⟩ := rfl
    rw [called, math, search]
    simp [sum, name, greeted]
  · rw [said]
    simp [Backends.turns, Backends.reply, sum, name, dialogue, backends, Reply.ofOutcome,
      Reply.ofSearchAnswer]

end Exchange

end ChatAssistant
