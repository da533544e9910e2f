import ChatAssistant.Proofs.Session.Tasks
import ChatAssistant.Proofs.Text.Blank

/-!
What becomes of a draft when it is submitted. The view and the conversation each have a guard of their
own, and the draft is emptied between them: were it not for the two guards being alike, a text could
be lost.
-/

namespace ChatAssistant

theorem Conversation.isBlank_iff (text : String) :
    isBlank text = true ↔ ∀ char ∈ text.toList, Text.isBlank char = true := by
  rw [isBlank, List.isEmpty_iff, Text.trim_eq_nil_iff]

namespace Session

def Refuses (session : Session) (draft : String) : Prop :=
  session.conversation.isBusy = true ∨ ∀ char ∈ draft.toList, Text.isBlank char = true

theorem refuses_iff (session : Session) (draft : String) :
    session.Refuses draft ↔
      Conversation.isBlank draft = true ∨ session.conversation.isBusy = true := by
  rw [Refuses, ← Conversation.isBlank_iff, or_comm]

theorem submit_of_refuses (host : Host) {session : Session} {draft : String}
    (drafted : session.view = .chat draft) (refuses : session.Refuses draft) :
    session.submit host = session :=
  submit_of_refused host drafted ((session.refuses_iff draft).mp refuses)

theorem submit_of_not_refuses (host : Host) {session : Session} {draft : String}
    (drafted : session.view = .chat draft) (taken : ¬session.Refuses draft) :
    session.submit host =
      ({ session with
        view := .chat ""
        conversation :=
          { session.conversation.add host.now .user draft none with
            isBusy := true } } : Session).dispatch host (Query.ofText draft) := by
  rw [refuses_iff, not_or, Bool.not_eq_true, Bool.not_eq_true] at taken
  obtain ⟨spoken, free⟩ := taken
  have emptied : ({ session with view := .chat "" } : Session).conversation.isBusy = false := free
  rw [submit_of_taken host drafted spoken free, send_of_taken host spoken emptied]

theorem submits_of_mem {event : Event} (submission : event = .press "Enter" ∨ event = .submit) :
    event.submits = true := by
  rcases submission with rfl | rfl
  · rfl
  · rfl

/-- A draft that is submitted stays where it is, and so does the conversation, exactly if a question
is waiting or the draft is blank. Otherwise the draft is emptied and becomes the one new message of
the user, word for word. One task is started for it, and to submit again changes nothing; where no
task can be started, the failure stands behind the message, and nothing waits and nothing goes out. -/
theorem react_of_submission (host : Host) {session : Session} {draft : String} {event : Event}
    (drafted : session.view = .chat draft)
    (submission : event = .press "Enter" ∨ event = .submit) :
    let after := session.react host event
    let refused := session.conversation.isBusy = true ∨
      ∀ char ∈ draft.toList, Text.isBlank char = true
    (after.view = .chat draft ∧ after.conversation = session.conversation ↔ refused) ∧
    (refused → after = session) ∧
    (¬refused →
      after.view = .chat "" ∧
      ∃ message, message.role = .user ∧ message.content = draft ∧
        (host.startsTasks = true →
          after.conversation.messages = session.conversation.messages ++ [message] ∧
          after.conversation.isBusy = true ∧
          (∃ task, after.tasks = session.tasks ++ [task] ∧ task.query.text = draft ∧
            task.query = Query.ofText draft ∧
            after.sent =
              session.sent ++ if host.answersAtOnce task.query then [] else [task.query]) ∧
          ∀ later again, again = .press "Enter" ∨ again = .submit →
            after.react later again = after) ∧
        (host.startsTasks = false →
          (∃ reply, after.conversation.messages =
            session.conversation.messages ++ [message, reply] ∧
              reply.utterance = Utterance.answer .failure) ∧
          after.conversation.isBusy = false ∧
          after.tasks = session.tasks ∧ after.sent = session.sent)) := by
  intro after refused
  have submitted : after = session.submit host :=
    react_of_submits host session (submits_of_mem submission)
  have whenRefused : refused → after = session := by
    intro refuses
    rw [submitted]
    exact submit_of_refuses host drafted refuses
  have emptied : ¬refused → after.view = .chat "" := by
    intro taken
    rw [submitted, submit_of_not_refuses host drafted taken, dispatch_view]
  refine ⟨⟨?_, ?_⟩, whenRefused, fun taken => ⟨emptied taken, ?_⟩⟩
  · rintro ⟨kept, _⟩
    by_contra taken
    rw [emptied taken] at kept
    -- The draft says something, so it is not the empty one that is left behind.
    apply taken
    cases kept
    exact Or.inr (fun char member => absurd member List.not_mem_nil)
  · intro refuses
    rw [whenRefused refuses]
    exact ⟨drafted, rfl⟩
  · rw [submitted, submit_of_not_refuses host drafted taken]
    refine ⟨⟨session.conversation.nextId.toNat, .user, draft, host.now, none⟩, rfl, rfl, ?_, ?_⟩
    · intro starts
      rw [dispatch_of_starts starts]
      refine ⟨rfl, rfl, ⟨_, rfl, Query.text_ofText draft, rfl, rfl⟩, ?_⟩
      intro later again resubmission
      rw [react_of_submits later _ (submits_of_mem resubmission)]
      exact submit_of_refuses later rfl (Or.inl rfl)
    · intro fails
      rw [dispatch_of_not_starts fails]
      exact ⟨⟨_, List.append_assoc _ [_] [_], rfl⟩, rfl, rfl, rfl⟩

/-- The spaces around a question are kept, and a draft of no-break spaces is refused. -/
theorem react_of_submission_spaces :
    let midnight : Timestamp := ⟨⟨2024, 1, 1⟩, 0, 0, 0, 0, 0⟩
    let host : Host :=
      ⟨⟨fun _ _ => none, midnight, true⟩, fun _ => none, fun _ _ => ([], .nothingFound)⟩
    let blank : Session := { start ⟨false, .missing⟩ midnight with view := .chat "\u00a0 " }
    let spoken : Session := { start ⟨false, .missing⟩ midnight with view := .chat " Rust " }
    blank.react host .submit = blank ∧
      (spoken.react host (.press "Enter")).view = .chat "" ∧
      ((spoken.react host (.press "Enter")).react host .submit).sent =
        (spoken.react host (.press "Enter")).sent ∧
      ∃ task, (spoken.react host (.press "Enter")).tasks = [task] ∧ task.query.text = " Rust " := by
  intro midnight host blank spoken
  have refused : ∀ char ∈ "\u00a0 ".toList, Text.isBlank char = true := by decide
  have taken : ¬(spoken.conversation.isBusy = true ∨
      ∀ char ∈ " Rust ".toList, Text.isBlank char = true) := by decide
  have blankDraft : blank.view = .chat "\u00a0 " := rfl
  have spokenDraft : spoken.view = .chat " Rust " := rfl
  obtain ⟨_, kept, _⟩ := react_of_submission host blankDraft (Or.inr rfl)
  obtain ⟨_, _, asked⟩ := react_of_submission host spokenDraft (Or.inl rfl)
  obtain ⟨emptied, _, _, _, whenStarted, _⟩ := asked taken
  obtain ⟨_, _, ⟨task, tasks, text, _⟩, again⟩ := whenStarted rfl
  refine ⟨kept (Or.inr refused), emptied, ?_, task, tasks, text⟩
  rw [again host .submit (Or.inr rfl)]

end Session

end ChatAssistant
