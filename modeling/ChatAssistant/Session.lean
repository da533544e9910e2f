import ChatAssistant.Backend.Endpoint
import ChatAssistant.Calculator.Service
import ChatAssistant.Preferences
import ChatAssistant.Session.View

/-!
A session: all that a window of the program holds, and what becomes of it when its user does
something or a task comes to its end. A task is started for every question that is taken, and
ends with the reply to it; a question whose task cannot be started fails.
-/

namespace ChatAssistant

/-- What may differ outside a session from one moment to the next. -/
structure Moment where
  write : Writer
  now : Timestamp
  /-- Whether there is anything for a task to run on. -/
  startsTasks : Bool

structure Host extends Moment where
  /-- The reply to a question that no other program is asked about. -/
  replyAtOnce? : Query → Option Reply
  /-- What comes of the question that is sent out with the request of this number: the requests
  that follow upon it, and the reply. -/
  replyFromAfar : Nat → Query → List Request × Reply

structure Task where
  query : Query
  /-- How many requests went out before it. -/
  number : Nat
  deriving DecidableEq, Repr

namespace Host

def during (host : Host) (moment : Moment) : Host :=
  { host with toMoment := moment }

def answersAtOnce (host : Host) (query : Query) : Bool :=
  (host.replyAtOnce? query).isSome

/-- What comes of a task: the requests that follow upon its own, and the reply. -/
def resolve (host : Host) (task : Task) : List Request × Reply :=
  match host.replyAtOnce? task.query with
  | some reply => ([], reply)
  | none => host.replyFromAfar task.number task.query

def localReply? : Query → Option Reply
  | .math expression => some (.ofMathAnswer (Calculator.answer expression))
  | .search _ => none

def endpointReply (response : Option Response) : Query → Reply
  | .math _ => .ofOutcome .ofMathAnswer (Endpoint.outcome MathAnswer.read? response)
  | .search query =>
      .ofOutcome (.ofSearchAnswer query) (Endpoint.outcome SearchAnswer.read? response)

/-- A host that answers mathematics itself or not, and sends all other questions to an
endpoint. -/
def withEndpoint (solvesMath : Bool) (url : Url) (net : Net) (write : Writer)
    (now : Timestamp) : Host where
  replyAtOnce? := if solvesMath then localReply? else fun _ => none
  replyFromAfar number query :=
    let (requests, last) := (Endpoint.request url query).follow net number
    (requests.tail, endpointReply last query)
  write := write
  now := now
  startsTasks := true

end Host

structure Session where
  preferences : Preferences
  view : View := .opening .chat
  isMenuOpen : Bool := false
  conversation : Conversation
  /-- The tasks that have been started and not come to their end. -/
  tasks : List Task := []
  /-- All questions that have been sent out. -/
  sent : List Query := []
  /-- All requests that followed upon those of the questions. -/
  followed : List Request := []
  /-- All scripts that the page has been given to run. -/
  scripts : List String
  deriving DecidableEq, Repr

namespace Session

def theme (session : Session) : Theme :=
  session.preferences.theme

def start (preferences : Preferences) (now : Timestamp) : Session where
  preferences := preferences
  conversation := .new now
  scripts := [preferences.theme.rootScript]

/-- What the user of a session may do in its page. -/
inductive Event where
  | navigate (destination : Section)
  | navigateInMenu (destination : Section)
  | openMenu
  | closeMenu
  | toggleTheme
  | selectTab (tab : SettingsTab)
  | setFast (isOn : Bool)
  | setNotifying (isOn : Bool)
  | setDark (isOn : Bool)
  | setName (text : String)
  | setEmail (text : String)
  | setDraft (text : String)
  | press (key : String)
  | submit

/-- Starts the task of answering a question. The question goes out unless the program answers
it itself. Where no task can be started, the question fails at once. -/
def dispatch (host : Host) (query : Query) (session : Session) : Session :=
  if host.startsTasks then
    { session with
      tasks := session.tasks ++ [⟨query, session.sent.length + session.followed.length⟩]
      sent := session.sent ++ if host.answersAtOnce query then [] else [query] }
  else { session with conversation := session.conversation.answer host.now .failure }

def send (host : Host) (text : String) (session : Session) : Session :=
  match session.conversation.ask? host.now text with
  | none => session
  | some (query, asked) => { session with conversation := asked }.dispatch host query

/-- The task at a place among the open ones comes to its end, and its reply is added. -/
def complete (host : Host) (index : Nat) (session : Session) : Session :=
  match session.tasks[index]? with
  | none => session
  | some task =>
      let (requests, reply) := host.resolve task
      { session with
        conversation := session.conversation.answer host.now reply
        tasks := session.tasks.eraseIdx index
        followed := session.followed ++ requests }

/-- Sends the draft and empties it, unless it is blank or a question is waiting. -/
def submit (host : Host) (session : Session) : Session :=
  match session.view with
  | .chat draft =>
      if session.conversation.isBusy || Conversation.isBlank draft then session
      else { session with view := .chat "" }.send host draft
  | _ => session

/-- The page follows every change of the theme, even to the same one. -/
def changeTheme (change : Preferences → Bool × Preferences) (session : Session) : Session :=
  let preferences := (change session.preferences).2
  { session with
    preferences
    scripts := session.scripts ++ [preferences.theme.rootScript] }

/-- Changes the open view; `change` leaves views that it does not know as they are. -/
def changeView (change : View → View) (session : Session) : Session :=
  { session with view := change session.view }

def withPanel (change : SettingsPanel → SettingsPanel) : View → View
  | .settings panel => .settings (change panel)
  | view => view

def withFast (isOn : Bool) : SettingsPanel → SettingsPanel
  | .general _ notifies => .general isOn notifies
  | panel => panel

def withNotifying (isOn : Bool) : SettingsPanel → SettingsPanel
  | .general isFast _ => .general isFast isOn
  | panel => panel

def withName (text : String) : View → View
  | .profile _ email => .profile text email
  | view => view

def withEmail (text : String) : View → View
  | .profile name _ => .profile name text
  | view => view

def withDraft (text : String) : View → View
  | .chat _ => .chat text
  | view => view

def submitKey : String := "Enter"

/-- What an event leads to, up to the task that it may start. -/
def react (host : Host) (session : Session) : Event → Session
  | .navigate destination => session.changeView (·.select destination)
  | .navigateInMenu destination =>
      { session.changeView (·.select destination) with isMenuOpen := false }
  | .openMenu => { session with isMenuOpen := true }
  | .closeMenu => { session with isMenuOpen := false }
  | .toggleTheme => session.changeTheme (·.toggle host.write)
  | .selectTab tab => session.changeView (withPanel (·.select tab))
  | .setFast isOn => session.changeView (withPanel (withFast isOn))
  | .setNotifying isOn => session.changeView (withPanel (withNotifying isOn))
  | .setDark isOn => session.changeTheme (·.set host.write isOn)
  | .setName text => session.changeView (withName text)
  | .setEmail text => session.changeView (withEmail text)
  | .setDraft text => session.changeView (withDraft text)
  | .press key => if key = submitKey then session.submit host else session
  | .submit => session.submit host

/-- The first task that the program answers itself comes to its end. -/
def completeAtOnce (host : Host) (session : Session) : Session :=
  session.complete host (session.tasks.findIdx fun task => host.answersAtOnce task.query)

/-- An event, and what the program answers to it itself. -/
def handle (host : Host) (session : Session) (event : Event) : Session :=
  (session.react host event).completeAtOnce host

/-- The answer to the first question that is waiting arrives, if there is one. -/
def settle (host : Host) (session : Session) : Session :=
  session.complete host 0

end Session

end ChatAssistant
