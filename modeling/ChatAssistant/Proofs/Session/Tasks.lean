import ChatAssistant.Proofs.Dialogue
import ChatAssistant.Session

/-!
A session through all that may happen to it, in any order: questions from anywhere, tasks that
come to their end, and whatever its user does meanwhile. At most one task is open, the
conversation waits exactly for it, and what is said depends on the questions taken alone.
-/

namespace ChatAssistant

open Utterance (dialogue question answer)

def Query.text : Query → String
  | .math expression => expression
  | .search query => query

theorem Query.text_ofText (text : String) : (Query.ofText text).text = text := by
  unfold ofText
  split <;> rfl

def Conversation.greetingUtterance : Utterance :=
  ⟨.assistant, greeting, none⟩

structure Accepted where
  text : String
  /-- Whether a task could be started for it. -/
  isStarted : Bool
  deriving DecidableEq, Repr

def Accepted.task (accepted : Accepted) (number : Nat) : Task :=
  ⟨Query.ofText accepted.text, number⟩

namespace Host

/-- How many requests a text leads to: its own, unless the program answers it itself, and those
that follow upon it. -/
def requestsFor (host : Host) (number : Nat) (accepted : Accepted) : Nat :=
  if accepted.isStarted then
    (if host.answersAtOnce (Query.ofText accepted.text) then 0 else 1) +
      (host.resolve (accepted.task number)).1.length
  else 0

def replyTo (host : Host) (number : Nat) (accepted : Accepted) : Reply :=
  if accepted.isStarted then (host.resolve (accepted.task number)).2 else .failure

def requestsAfter (host : Host) : Nat → List Accepted → Nat
  | number, [] => number
  | number, accepted :: later =>
      host.requestsAfter (number + host.requestsFor number accepted) later

def turns (host : Host) : Nat → List Accepted → List (String × Reply)
  | _, [] => []
  | number, accepted :: later =>
      (accepted.text, host.replyTo number accepted) ::
        host.turns (number + host.requestsFor number accepted) later

theorem requestsAfter_concat (host : Host) (number : Nat) (texts : List Accepted)
    (text : Accepted) :
    host.requestsAfter number (texts ++ [text]) = host.requestsAfter number texts +
      host.requestsFor (host.requestsAfter number texts) text := by
  induction texts generalizing number with
  | nil => rfl
  | cons head texts ih => exact ih _

theorem turns_concat (host : Host) (number : Nat) (texts : List Accepted) (text : Accepted) :
    host.turns number (texts ++ [text]) = host.turns number texts ++
      [(text.text, host.replyTo (host.requestsAfter number texts) text)] := by
  induction texts generalizing number with
  | nil => rfl
  | cons head texts ih =>
      simp only [List.cons_append, turns, requestsAfter, ih]

end Host

def View.draft? : View → Option String
  | .chat draft => some draft
  | _ => none

namespace Session

def Event.submits : Event → Bool
  | .submit => true
  | .press key => key = submitKey
  | _ => false

/-- Something the user does, a question from anywhere, or the end of the task at a place among
the open ones. -/
inductive Happening where
  | event (event : Event)
  | question (text : String)
  | ending (index : Nat)

def step (host : Host) (session : Session) : Happening → Session
  | .event event => session.react host event
  | .question text => session.send host text
  | .ending index => session.complete host index

def run (host : Host) (session : Session) : List (Moment × Happening) → Session
  | [] => session
  | (moment, happening) :: course =>
      (session.step (host.during moment) happening).run host course

def submitted? (session : Session) : Happening → Option String
  | .event event => if event.submits then session.view.draft? else none
  | .question text => some text
  | .ending _ => none

/-- A text that is submitted is accepted if it says anything and no task is open. -/
def accepted? (moment : Moment) (session : Session) (happening : Happening) : Option Accepted :=
  ((session.submitted? happening).filter fun text =>
    !Conversation.isBlank text && session.tasks.isEmpty).map (⟨·, moment.startsTasks⟩)

def accepted (host : Host) (session : Session) : List (Moment × Happening) → List Accepted
  | [] => []
  | (moment, happening) :: course =>
      (session.accepted? moment happening).toList ++
        (session.step (host.during moment) happening).accepted host course

theorem isStarted_of_accepted? {moment : Moment} {session : Session} {happening : Happening}
    {accepted : Accepted} (taken : accepted ∈ session.accepted? moment happening) :
    accepted.isStarted = moment.startsTasks := by
  obtain ⟨text, _, rfl⟩ := Option.map_eq_some_iff.mp taken
  rfl

theorem isStarted_of_mem_accepted (host : Host) {session : Session}
    {course : List (Moment × Happening)}
    (starts : ∀ entry ∈ course, entry.1.startsTasks = true) :
    ∀ accepted ∈ session.accepted host course, accepted.isStarted = true := by
  induction course generalizing session with
  | nil => exact fun _ member => absurd member List.not_mem_nil
  | cons entry course ih =>
      intro accepted member
      rcases List.mem_append.mp member with first | later
      · rw [isStarted_of_accepted? (Option.mem_toList.mp first)]
        exact starts entry List.mem_cons_self
      · exact ih (fun entry behind => starts entry (List.mem_cons_of_mem _ behind)) accepted later

/-- What an event does to a session is one event and the end of one task. -/
theorem handle_eq_run (host : Host) (moment : Moment) (session : Session) (event : Event) :
    ∃ index, session.handle (host.during moment) event =
      session.run host [(moment, .event event), (moment, .ending index)] :=
  ⟨_, rfl⟩

theorem settle_eq_run (host : Host) (moment : Moment) (session : Session) :
    session.settle (host.during moment) = session.run host [(moment, .ending 0)] := rfl

/-- All that a dialogue depends on is alike. -/
structure SameDialogue (before after : Session) : Prop where
  conversation : after.conversation = before.conversation
  tasks : after.tasks = before.tasks
  sent : after.sent = before.sent
  followed : after.followed = before.followed

theorem SameDialogue.refl (session : Session) : SameDialogue session session :=
  ⟨rfl, rfl, rfl, rfl⟩

theorem dispatch_of_starts {host : Host} (starts : host.startsTasks = true) (query : Query)
    (session : Session) :
    session.dispatch host query =
      { session with
        tasks := session.tasks ++ [⟨query, session.sent.length + session.followed.length⟩]
        sent := session.sent ++ if host.answersAtOnce query then [] else [query] } :=
  if_pos starts

theorem dispatch_of_not_starts {host : Host} (fails : host.startsTasks = false) (query : Query)
    (session : Session) :
    session.dispatch host query =
      { session with conversation := session.conversation.answer host.now .failure } :=
  if_neg (by rw [fails]; exact Bool.false_ne_true)

theorem dispatch_view (host : Host) (query : Query) (session : Session) :
    (session.dispatch host query).view = session.view := by
  unfold dispatch
  split <;> rfl

theorem SameDialogue.dispatch (host : Host) (query : Query) {before after : Session}
    (same : SameDialogue before after) :
    SameDialogue (before.dispatch host query) (after.dispatch host query) := by
  obtain ⟨conversation, tasks, sent, followed⟩ := same
  cases starts : host.startsTasks with
  | true =>
      rw [dispatch_of_starts starts, dispatch_of_starts starts]
      refine ⟨conversation, ?_, ?_, followed⟩
      · rw [tasks, sent, followed]
      · rw [sent]
  | false =>
      rw [dispatch_of_not_starts starts, dispatch_of_not_starts starts]
      refine ⟨?_, tasks, sent, followed⟩
      rw [conversation]

theorem submit_of_refused (host : Host) {session : Session} {draft : String}
    (drafted : session.view = .chat draft)
    (refused : Conversation.isBlank draft = true ∨ session.conversation.isBusy = true) :
    session.submit host = session := by
  unfold submit
  rw [drafted]
  have stopped : (session.conversation.isBusy || Conversation.isBlank draft) = true := by
    rw [Bool.or_eq_true]
    exact refused.symm
  exact if_pos stopped

theorem submit_of_taken (host : Host) {session : Session} {draft : String}
    (drafted : session.view = .chat draft) (spoken : Conversation.isBlank draft = false)
    (free : session.conversation.isBusy = false) :
    session.submit host = { session with view := .chat "" }.send host draft := by
  unfold submit
  rw [drafted]
  simp only [spoken, free, Bool.or_self, Bool.false_eq_true, if_false]

theorem submit_of_no_draft (host : Host) {session : Session}
    (undrafted : session.view.draft? = none) : session.submit host = session := by
  unfold submit
  cases shown : session.view with
  | chat draft => rw [shown] at undrafted; cases undrafted
  | _ => rfl

theorem react_of_submits (host : Host) (session : Session) {event : Event}
    (submits : event.submits = true) : session.react host event = session.submit host := by
  cases event with
  | submit => rfl
  | press key => exact if_pos (of_decide_eq_true submits)
  | _ => cases submits

/-- Navigation, the menu, the theme and the settings never reach the dialogue. -/
theorem react_of_not_submits (host : Host) (session : Session) {event : Event}
    (quiet : event.submits = false) : SameDialogue session (session.react host event) := by
  cases event with
  | submit => cases quiet
  | press key =>
      have other : session.react host (.press key) = session :=
        if_neg (of_decide_eq_false quiet)
      rw [other]
      exact .refl session
  | _ => exact ⟨rfl, rfl, rfl, rfl⟩

theorem send_of_refused (host : Host) {session : Session} {text : String}
    (refused : Conversation.isBlank text = true ∨ session.conversation.isBusy = true) :
    session.send host text = session := by
  have unasked := (session.conversation.ask?_eq_none_iff host.now text).mpr refused
  simp only [send, unasked]

theorem send_of_taken (host : Host) {session : Session} {text : String}
    (spoken : Conversation.isBlank text = false) (free : session.conversation.isBusy = false) :
    session.send host text =
      { session with conversation :=
        { session.conversation.add host.now .user text none with isBusy := true } }.dispatch host
        (Query.ofText text) := by
  have asked := session.conversation.ask?_of_taken host.now spoken free
  simp only [send, asked]

/-- What becomes of a session when something submits a text: nothing if the text is refused,
and what becomes of it when the question is asked outright otherwise. -/
theorem step_of_submitted (host : Host) {session : Session} {happening : Happening}
    {text : String} (submitted : session.submitted? happening = some text) :
    ((Conversation.isBlank text = true ∨ session.conversation.isBusy = true) →
      session.step host happening = session) ∧
    (Conversation.isBlank text = false → session.conversation.isBusy = false →
      SameDialogue (session.send host text) (session.step host happening)) := by
  cases happening with
  | ending index => cases submitted
  | question asked =>
      cases submitted
      exact ⟨send_of_refused host, fun _ _ => .refl _⟩
  | event event =>
      cases submits : event.submits with
      | false => rw [submitted?, submits] at submitted; cases submitted
      | true =>
          rw [submitted?, submits, if_pos rfl] at submitted
          have drafted : session.view = .chat text := by
            cases shown : session.view <;> rw [shown] at submitted <;> cases submitted
            rfl
          simp only [step, react_of_submits host session submits]
          constructor
          · intro refused
            exact submit_of_refused host drafted refused
          · intro spoken free
            have emptied : ({ session with view := .chat "" }.send host text) = _ :=
              send_of_taken host spoken free
            rw [submit_of_taken host drafted spoken free, emptied,
              send_of_taken host spoken free]
            exact .dispatch host _ ⟨rfl, rfl, rfl, rfl⟩

/-- Without a text, only the end of a task reaches the dialogue. -/
theorem step_of_not_submitted (host : Host) {session : Session} {event : Event}
    (unsubmitted : session.submitted? (.event event) = none) :
    SameDialogue session (session.step host (.event event)) := by
  cases submits : event.submits with
  | false => exact react_of_not_submits host session submits
  | true =>
      rw [submitted?, submits, if_pos rfl] at unsubmitted
      simp only [step, react_of_submits host session submits,
        submit_of_no_draft host unsubmitted]
      exact .refl session

/-- Where a session stands when texts have been accepted: all of them are answered, or all but
the last one, whose task is open. -/
inductive Stands (host : Host) (session : Session) : List Accepted → Prop where
  | idle {texts : List Accepted} (free : session.conversation.isBusy = false)
      (none_open : session.tasks = [])
      (said : session.conversation.utterances =
        Conversation.greetingUtterance :: dialogue (host.turns 0 texts))
      (requested : session.sent.length + session.followed.length =
        host.requestsAfter 0 texts) : Stands host session texts
  | waiting {texts : List Accepted} {text : String} (busy : session.conversation.isBusy = true)
      (one_open : session.tasks = [⟨Query.ofText text, host.requestsAfter 0 texts⟩])
      (said : session.conversation.utterances =
        Conversation.greetingUtterance :: dialogue (host.turns 0 texts) ++ [question text])
      (requested : session.sent.length + session.followed.length =
        host.requestsAfter 0 texts +
          if host.answersAtOnce (Query.ofText text) then 0 else 1) :
      Stands host session (texts ++ [⟨text, true⟩])

theorem start_stands (host : Host) (preferences : Preferences) (opened : Timestamp) :
    Stands host (start preferences opened) [] :=
  .idle rfl rfl rfl rfl

theorem Stands.of_same {host : Host} {before after : Session} {texts : List Accepted}
    (stands : Stands host before texts) (same : SameDialogue before after) :
    Stands host after texts := by
  cases stands with
  | idle free none_open said requested =>
      apply Stands.idle
      · rw [same.conversation, free]
      · rw [same.tasks, none_open]
      · rw [same.conversation, said]
      · rw [same.sent, same.followed, requested]
  | waiting busy one_open said requested =>
      apply Stands.waiting
      · rw [same.conversation, busy]
      · rw [same.tasks, one_open]
      · rw [same.conversation, said]
      · rw [same.sent, same.followed, requested]

theorem Stands.busy_iff {host : Host} {session : Session} {texts : List Accepted}
    (stands : Stands host session texts) :
    session.conversation.isBusy = true ↔ session.tasks.length = 1 := by
  cases stands with
  | idle free none_open => rw [free, none_open]; decide
  | waiting busy one_open => rw [busy, one_open]; exact iff_of_true rfl rfl

theorem Stands.tasks_length_le {host : Host} {session : Session} {texts : List Accepted}
    (stands : Stands host session texts) : session.tasks.length ≤ 1 := by
  cases stands with
  | idle free none_open => rw [none_open]; exact Nat.zero_le 1
  | waiting busy one_open => rw [one_open]; exact Nat.le_refl 1

theorem Stands.isEmpty_tasks {host : Host} {session : Session} {texts : List Accepted}
    (stands : Stands host session texts) :
    session.tasks.isEmpty = !session.conversation.isBusy := by
  cases stands with
  | idle free none_open => rw [free, none_open]; rfl
  | waiting busy one_open => rw [busy, one_open]; rfl

theorem Stands.send_of_starts {host : Host} {session : Session} {texts : List Accepted}
    {text : String} (moment : Moment) (starts : moment.startsTasks = true)
    (stands : Stands host session texts) (spoken : Conversation.isBlank text = false)
    (free : session.conversation.isBusy = false) :
    Stands host (session.send (host.during moment) text) (texts ++ [⟨text, true⟩]) := by
  cases stands with
  | waiting busy => rw [free] at busy; cases busy
  | idle _ none_open said requested =>
      have asked := session.conversation.utterances_add moment.now .user text none
      rw [said] at asked
      rw [send_of_taken (host.during moment) spoken free, dispatch_of_starts starts]
      apply Stands.waiting
      · rfl
      · simp only [none_open, requested, List.nil_append]
      · exact asked
      · cases atOnce : host.answersAtOnce (Query.ofText text) with
        | true =>
            have local_too : (host.during moment).answersAtOnce (Query.ofText text) = true := atOnce
            simp only [local_too, if_true, List.append_nil, requested, Nat.add_zero]
        | false =>
            have remote_too : (host.during moment).answersAtOnce (Query.ofText text) = false :=
              atOnce
            simp only [remote_too, Bool.false_eq_true, if_false, List.length_append,
              List.length_singleton, ← requested]
            omega

theorem Stands.send_of_not_starts {host : Host} {session : Session} {texts : List Accepted}
    {text : String} (moment : Moment) (fails : moment.startsTasks = false)
    (stands : Stands host session texts) (spoken : Conversation.isBlank text = false)
    (free : session.conversation.isBusy = false) :
    Stands host (session.send (host.during moment) text) (texts ++ [⟨text, false⟩]) := by
  cases stands with
  | waiting busy => rw [free] at busy; cases busy
  | idle _ none_open said requested =>
      have asked := session.conversation.utterances_add moment.now .user text none
      rw [said] at asked
      rw [send_of_taken (host.during moment) spoken free, dispatch_of_not_starts fails]
      apply Stands.idle
      · rfl
      · exact none_open
      · rw [Conversation.utterances_answer, Host.turns_concat, Utterance.dialogue_append]
        change (session.conversation.add moment.now .user text none).utterances ++ _ = _
        rw [asked, List.append_assoc]
        rfl
      · rw [Host.requestsAfter_concat]
        exact requested

theorem Stands.send {host : Host} {session : Session} {texts : List Accepted} {text : String}
    (moment : Moment) (stands : Stands host session texts)
    (spoken : Conversation.isBlank text = false) (free : session.conversation.isBusy = false) :
    Stands host (session.send (host.during moment) text)
      (texts ++ [⟨text, moment.startsTasks⟩]) := by
  cases starts : moment.startsTasks with
  | true => exact stands.send_of_starts moment starts spoken free
  | false => exact stands.send_of_not_starts moment starts spoken free

theorem complete_of_open (host : Host) {session : Session} {index : Nat} {task : Task}
    (found : session.tasks[index]? = some task) :
    session.complete host index =
      { session with
        conversation := session.conversation.answer host.now (host.resolve task).2
        tasks := session.tasks.eraseIdx index
        followed := session.followed ++ (host.resolve task).1 } := by
  simp only [complete, found]

theorem complete_of_absent (host : Host) {session : Session} {index : Nat}
    (absent : session.tasks[index]? = none) : session.complete host index = session := by
  simp only [complete, absent]

theorem Stands.complete {host : Host} {session : Session} {texts : List Accepted}
    (moment : Moment) (index : Nat) (stands : Stands host session texts) :
    Stands host (session.complete (host.during moment) index) texts := by
  cases found : session.tasks[index]? with
  | none => rw [complete_of_absent _ found]; exact stands
  | some task =>
      cases stands with
      | idle _ none_open => rw [none_open] at found; cases found
      | @waiting texts text busy one_open said requested =>
          obtain ⟨rfl, same⟩ : index = 0 ∧
              (⟨Query.ofText text, host.requestsAfter 0 texts⟩ : Task) = task := by
            rw [one_open] at found
            cases index with
            | zero => exact ⟨rfl, Option.some.inj found⟩
            | succ index => cases found
          subst same
          have resolved : (host.during moment).resolve = host.resolve := rfl
          rw [complete_of_open _ found, resolved]
          apply Stands.idle
          · rfl
          · rw [one_open, List.eraseIdx_cons_zero]
          · rw [Conversation.utterances_answer, said, Host.turns_concat,
              Utterance.dialogue_append, List.append_assoc]
            rfl
          · change session.sent.length + (session.followed ++ (host.resolve _).1).length = _
            rw [Host.requestsAfter_concat, Host.requestsFor, if_pos rfl, List.length_append,
              ← Nat.add_assoc, requested, Nat.add_assoc]
            rfl

theorem Stands.step {host : Host} {session : Session} {texts : List Accepted}
    (moment : Moment) (happening : Happening) (stands : Stands host session texts) :
    Stands host (session.step (host.during moment) happening)
      (texts ++ (session.accepted? moment happening).toList) := by
  cases submitted : session.submitted? happening with
  | none =>
      have unaccepted : session.accepted? moment happening = none := by
        rw [accepted?, submitted, Option.filter_none, Option.map_none]
      rw [unaccepted, Option.toList_none, List.append_nil]
      cases happening with
      | event event => exact stands.of_same (step_of_not_submitted _ submitted)
      | question text => cases submitted
      | ending index => exact stands.complete moment index
  | some text =>
      obtain ⟨whenRefused, whenTaken⟩ := step_of_submitted (host.during moment) submitted
      have acceptedAs : session.accepted? moment happening = (Option.filter (fun text =>
          !Conversation.isBlank text && !session.conversation.isBusy) (some text)).map
            (⟨·, moment.startsTasks⟩) := by
        rw [accepted?, submitted, stands.isEmpty_tasks]
      cases blank : Conversation.isBlank text with
      | true =>
          rw [acceptedAs, Option.filter_some, blank, whenRefused (Or.inl blank)]
          simpa only [Bool.not_true, Bool.false_and, Bool.false_eq_true, if_false,
            Option.map_none, Option.toList_none, List.append_nil] using stands
      | false =>
          cases busy : session.conversation.isBusy with
          | true =>
              rw [acceptedAs, Option.filter_some, busy, whenRefused (Or.inr busy)]
              simpa only [Bool.not_true, Bool.and_false, Bool.false_eq_true, if_false,
                Option.map_none, Option.toList_none, List.append_nil] using stands
          | false =>
              rw [acceptedAs, Option.filter_some, blank, busy]
              exact (stands.send moment blank busy).of_same (whenTaken blank busy)

theorem Stands.run {host : Host} {session : Session} {texts : List Accepted}
    (stands : Stands host session texts) (course : List (Moment × Happening)) :
    Stands host (session.run host course) (texts ++ session.accepted host course) := by
  induction course generalizing session texts with
  | nil =>
      rw [accepted, List.append_nil]
      exact stands
  | cons first course ih =>
      obtain ⟨moment, happening⟩ := first
      have later := ih (stands.step moment happening)
      rw [List.append_assoc] at later
      exact later

theorem Stands.answered {host : Host} {session : Session} {texts : List Accepted}
    (stands : Stands host session texts) :
    ∃ answered, texts = answered ++ session.tasks.map (fun task => ⟨task.query.text, true⟩) ∧
      session.conversation.utterances =
        Conversation.greetingUtterance :: dialogue (host.turns 0 answered) ++
          session.tasks.map (question ·.query.text) := by
  cases stands with
  | idle _ none_open said =>
      refine ⟨texts, ?_, ?_⟩
      · rw [none_open, List.map_nil, List.append_nil]
      · rw [none_open, said, List.map_nil, List.append_nil]
  | @waiting texts text _ one_open said =>
      refine ⟨texts, ?_, ?_⟩
      · rw [one_open, List.map_singleton, Query.text_ofText]
      · rw [one_open, said, List.map_singleton, Query.text_ofText]

/-- The only open task comes to its end wherever its user is. -/
theorem step_ending_of_only (host : Host) {session : Session} {task : Task}
    (only : session.tasks = [task]) :
    (session.step host (.ending 0)).tasks = [] ∧
      (session.step host (.ending 0)).conversation.isBusy = false ∧
      (session.step host (.ending 0)).conversation.utterances =
        session.conversation.utterances ++ [answer (host.resolve task).2] := by
  have found : session.tasks[0]? = some task := by rw [only]; rfl
  simp only [step, complete_of_open host found, only, List.eraseIdx_cons_zero]
  exact ⟨trivial, rfl, Conversation.utterances_answer _ _ _⟩

/-- Whatever happens in whatever order, at most one task is open, and the conversation waits
exactly while one is. The accepted texts are those that have been answered and the one whose task
is open; behind the greeting stand the former, each with its reply, and then the latter. The reply
is what comes of the task, where tasks can be started. While a task is open, a text that is
submitted changes nothing. What submits nothing leaves the conversation and the task alone, and the
task can come to its end after it. -/
theorem run_of_start (host : Host) (preferences : Preferences) (opened : Timestamp)
    (course : List (Moment × Happening)) :
    let session := (start preferences opened).run host course
    session.tasks.length ≤ 1 ∧
    (session.conversation.isBusy = true ↔ session.tasks.length = 1) ∧
    (∃ answered,
      (start preferences opened).accepted host course =
        answered ++ session.tasks.map (fun task => ⟨task.query.text, true⟩) ∧
      session.conversation.utterances =
        Conversation.greetingUtterance :: dialogue (host.turns 0 answered) ++
          session.tasks.map (question ·.query.text) ∧
      ((∀ entry ∈ course, entry.1.startsTasks = true) →
        ∀ accepted ∈ answered, accepted.isStarted = true)) ∧
    (∀ moment happening text, session.tasks.length = 1 →
      session.submitted? happening = some text →
        session.step (host.during moment) happening = session) ∧
    (∀ moment event, event.submits = false →
      (session.step (host.during moment) (.event event)).conversation = session.conversation ∧
        (session.step (host.during moment) (.event event)).tasks = session.tasks) ∧
    (∀ moment task, session.tasks = [task] →
      (session.step (host.during moment) (.ending 0)).tasks = [] ∧
        (session.step (host.during moment) (.ending 0)).conversation.isBusy = false ∧
        (session.step (host.during moment) (.ending 0)).conversation.utterances =
          session.conversation.utterances ++ [answer (host.resolve task).2]) := by
  intro session
  have stands : Stands host session ((start preferences opened).accepted host course) :=
    (start_stands host preferences opened).run course
  refine ⟨stands.tasks_length_le, stands.busy_iff, ?_, ?_, ?_, ?_⟩
  · obtain ⟨answered, accepted, said⟩ := stands.answered
    refine ⟨answered, accepted, said, fun starts text member => ?_⟩
    have taken : text ∈ (start preferences opened).accepted host course := by
      rw [accepted]
      exact List.mem_append_left _ member
    exact isStarted_of_mem_accepted host starts text taken
  · intro moment happening text one submitted
    exact (step_of_submitted (host.during moment) submitted).1 (Or.inr (stands.busy_iff.mpr one))
  · intro moment event quiet
    have same := react_of_not_submits (host.during moment) session quiet
    exact ⟨same.conversation, same.tasks⟩
  · intro moment task only
    exact step_ending_of_only (host.during moment) only

/-- A user who has asked and left for another section: another question is refused, and the first
one is still answered. -/
theorem run_of_start_waiting :
    let midnight : Timestamp := ⟨⟨2024, 1, 1⟩, 0, 0, 0, 0, 0⟩
    let moment : Moment := ⟨fun _ _ => none, midnight, true⟩
    let host : Host := ⟨moment, fun _ => none, fun _ _ => ([], .nothingFound)⟩
    let session := (start ⟨false, .missing⟩ midnight).run host
      [(moment, .question "Rust"), (moment, .event (.navigate .history))]
    session.tasks = [⟨.search "Rust", 0⟩] ∧ session.conversation.isBusy = true ∧
      session.step (host.during moment) (.question "2+2") = session ∧
      (session.step (host.during moment) (.event (.navigate .chat))).tasks = session.tasks ∧
      (session.step (host.during moment) (.ending 0)).conversation.utterances =
        session.conversation.utterances ++ [answer .nothingFound] := by
  intro midnight moment host session
  have only : session.tasks = [⟨.search "Rust", 0⟩] := by decide
  obtain ⟨_, waits, _, refused, left, ended⟩ := run_of_start host ⟨false, .missing⟩ midnight
    [(moment, .question "Rust"), (moment, .event (.navigate .history))]
  have one : session.tasks.length = 1 := by rw [only]; rfl
  refine ⟨only, waits.mpr one, ?_, ?_, ?_⟩
  · exact refused moment (.question "2+2") "2+2" one rfl
  · exact (left moment (.navigate .chat) rfl).2
  · exact (ended moment _ only).2.2

end Session

end ChatAssistant
