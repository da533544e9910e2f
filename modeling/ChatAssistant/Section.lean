/-!
Sections of the page, in the order of its menu.
-/

namespace ChatAssistant

inductive Section where
  | chat
  | history
  | settings
  | pricing
  | documentation
  | profile
  deriving DecidableEq, Repr

namespace Section

def all : List Section :=
  [.chat, .history, .settings, .pricing, .documentation, .profile]

def label : Section → String
  | .chat => "Чат"
  | .history => "История"
  | .settings => "Настройки"
  | .pricing => "Тарифы"
  | .documentation => "Документация"
  | .profile => "Профиль"

def icon : Section → String
  | .chat => "💬"
  | .history => "🕘"
  | .settings => "⚙"
  | .pricing => "💳"
  | .documentation => "📖"
  | .profile => "👤"

end Section

end ChatAssistant
