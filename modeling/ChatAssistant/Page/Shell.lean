import ChatAssistant.Page.Chat
import ChatAssistant.Page.Documentation
import ChatAssistant.Page.History
import ChatAssistant.Page.Pricing
import ChatAssistant.Page.Profile
import ChatAssistant.Page.Settings

/-!
The page of a session: the bar at its side, the header with the menu, and the open section. A
program that cannot start has a page of its own.
-/

namespace ChatAssistant.Page

open Session (Event)

def programName : String := "RotyChat AI"

/-- What the same session may look different in from place to place. -/
structure Presentation where
  /-- The time that is written under a message. -/
  clock? : Timestamp → Option String := Timestamp.clock?
  styleSheet : Theme → String := Theme.styleSheet

def navigationItem (shown : Section) (event : Section → Event) (destination : Section) : Node :=
  button ("nav-item " ++ if shown = destination then "active" else "") []
    [.click (event destination)]
    [classed "span" "nav-icon" [.text destination.icon],
      classed "span" "nav-label" [.text destination.label]]

def navigation (shown : Section) (event : Section → Event) : Node :=
  classed "nav" "section-nav" (Section.all.map (navigationItem shown event))

def promotion : Node :=
  classed "div" "promo-card"
    [bare "h3" [.text "✨ Подключить API"],
      classed "p" "text-muted" [.text "Расширьте возможности через внешние сервисы"],
      idleButton "btn btn-gradient btn-block" "Настроить"]

def sidebar (shown : Section) : Node :=
  classed "aside" "sidebar"
    [classed "div" "sidebar-brand"
        [classed "h1" "gradient-text" [.text programName],
          classed "p" "text-muted" [.text "Умный ассистент для всех задач"]],
      classed "div" "sidebar-body" [navigation shown .navigate, promotion],
      classed "div" "sidebar-footer"
        [classed "div" "avatar gradient-bg" [.text "П"],
          classed "div" "sidebar-user"
            [classed "p" "user-name" [.text "Пользователь"],
              classed "p" "text-muted" [.text "Free Plan"]],
          idleButton "btn btn-ghost btn-icon" "⋮"]]

def menuButton : Node :=
  button "btn btn-ghost btn-icon menu-button" [] [.click .openMenu] [.text "☰"]

def themeButton (theme : Theme) : Node :=
  button "btn btn-ghost btn-icon" [.text "title" theme.toggleLabel] [.click .toggleTheme]
    [.text theme.toggleIcon]

def header (shown : Section) (theme : Theme) : Node :=
  classed "header" "app-header"
    [classed "div" "header-left"
        [menuButton, classed "h2" "header-title" [.text shown.label]],
      classed "div" "header-right"
        [classed "span" "badge" [.text "🌐 🧮 AI + Интернет"], themeButton theme,
          idleButton "btn btn-ghost btn-icon" "🔔"]]

def menu (shown : Section) : List Node :=
  [.element
      { tag := "div"
        attributes := [.text "class" "sheet-overlay"]
        listeners := [.click .closeMenu] }
      [],
    classed "div" "sheet"
      [classed "div" "sheet-header" [classed "span" "gradient-text" [.text programName]],
        navigation shown .navigateInMenu]]

def openView (presentation : Presentation) (session : Session) : List Node :=
  match session.view with
  | .chat draft => chat presentation.clock? session.conversation draft
  | .history => history
  | .settings panel => settings session.preferences.isDark panel
  | .pricing => pricing
  | .documentation => documentation
  | .profile name email => profile name email

def shell (presentation : Presentation) (session : Session) : List Node :=
  let shown := session.view.shownSection
  [bare "style" [.raw (presentation.styleSheet session.theme)],
    classed "div" ("app-shell " ++ session.theme.className)
      [sidebar shown,
        classed "main" "main"
          (header shown session.theme ::
            (if session.isMenuOpen then menu shown else []) ++
            openView presentation session)]]

/-- The page that is shown instead of a session when the settings are at fault. -/
def startupFailure (message : String) : List Node :=
  [classed "div" "startup-error"
    [bare "h1" [.text programName],
      bare "p" [.text ("Ошибка конфигурации: " ++ message)]]]

end ChatAssistant.Page
