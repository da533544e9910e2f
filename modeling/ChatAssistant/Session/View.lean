import ChatAssistant.Section

/-!
What is open in a session, with all that was entered there and is lost when it is left.
-/

namespace ChatAssistant

inductive SettingsTab where
  | general
  | interfaces
  | appearance
  deriving DecidableEq, Repr

namespace SettingsTab

def all : List SettingsTab :=
  [.general, .interfaces, .appearance]

def label : SettingsTab → String
  | .general => "Общие"
  | .interfaces => "API"
  | .appearance => "Внешний вид"

end SettingsTab

inductive SettingsPanel where
  | general (isFast notifies : Bool)
  | interfaces
  | appearance
  deriving DecidableEq, Repr

namespace SettingsPanel

def tab : SettingsPanel → SettingsTab
  | .general _ _ => .general
  | .interfaces => .interfaces
  | .appearance => .appearance

def opening : SettingsTab → SettingsPanel
  | .general => .general false false
  | .interfaces => .interfaces
  | .appearance => .appearance

/-- The tab that is open already stays as it is. -/
def select (panel : SettingsPanel) (tab : SettingsTab) : SettingsPanel :=
  if panel.tab = tab then panel else opening tab

end SettingsPanel

inductive View where
  | chat (draft : String)
  | history
  | settings (panel : SettingsPanel)
  | pricing
  | documentation
  | profile (name email : String)
  deriving DecidableEq, Repr

namespace View

def shownSection : View → Section
  | .chat _ => .chat
  | .history => .history
  | .settings _ => .settings
  | .pricing => .pricing
  | .documentation => .documentation
  | .profile _ _ => .profile

def opening : Section → View
  | .chat => .chat ""
  | .history => .history
  | .settings => .settings (.opening .general)
  | .pricing => .pricing
  | .documentation => .documentation
  | .profile => .profile "Пользователь" "user@example.com"

def select (view : View) (destination : Section) : View :=
  if view.shownSection = destination then view else opening destination

end View

end ChatAssistant
