/-!
Colour themes: their style sheets, and the control that changes from one to the other.
-/

namespace ChatAssistant

inductive Theme where
  | light
  | dark
  deriving DecidableEq, Repr

namespace Theme

def ofFlag (isDark : Bool) : Theme :=
  if isDark then .dark else .light

def other : Theme → Theme
  | .light => .dark
  | .dark => .light

/-- The class that stands for the theme on the root of a page. -/
def className : Theme → String
  | .light => "light"
  | .dark => "dark"

structure Palette where
  page : String
  sidebar : String
  card : String
  muted : String
  text : String
  mutedText : String
  border : String
  accent : String
  secondAccent : String
  softAccent : String
  userText : String
  input : String
  deriving DecidableEq, Repr

def palette : Theme → Palette
  | .light => {
      page := "#ffffff"
      sidebar := "#f7f7fb"
      card := "#ffffff"
      muted := "#f1f1f6"
      text := "#14141f"
      mutedText := "#6b6b7b"
      border := "#e4e4ee"
      accent := "#8b5cf6"
      secondAccent := "#0ea5e9"
      softAccent := "rgba(139, 92, 246, 0.12)"
      userText := "#ffffff"
      input := "#ffffff" }
  | .dark => {
      page := "#0f0f17"
      sidebar := "#14141f"
      card := "#1a1a27"
      muted := "#232333"
      text := "#f4f4f8"
      mutedText := "#9d9db0"
      border := "#2a2a3c"
      accent := "#a78bfa"
      secondAccent := "#38bdf8"
      softAccent := "rgba(167, 139, 250, 0.16)"
      userText := "#ffffff"
      input := "#14141f" }

def Palette.properties (palette : Palette) : List (String × String) :=
  [("--color-bg-primary", palette.page), ("--color-bg-sidebar", palette.sidebar),
    ("--color-bg-card", palette.card), ("--color-bg-muted", palette.muted),
    ("--color-text-primary", palette.text), ("--color-text-muted", palette.mutedText),
    ("--color-border", palette.border), ("--color-accent", palette.accent),
    ("--color-accent-secondary", palette.secondAccent),
    ("--color-accent-soft", palette.softAccent), ("--color-user-text", palette.userText),
    ("--color-input-bg", palette.input)]

def propertyLine (property : String × String) : String :=
  "    " ++ property.1 ++ ": " ++ property.2 ++ ";\n"

def bodyRule : String :=
  "body \x7b background: var(--color-bg-primary); color: var(--color-text-primary); \x7d\n"

def styleSheet (theme : Theme) : String :=
  "\n:root \x7b\n" ++ String.join (theme.palette.properties.map propertyLine) ++ "\x7d\n" ++
    bodyRule

/-- Puts the class of the theme on the root of the document, in the place of the other one. -/
def rootScript (theme : Theme) : String :=
  "document.documentElement.classList.remove('" ++ theme.other.className ++
    "'); document.documentElement.classList.add('" ++ theme.className ++ "');"

/-- The control shows the theme that it leads to. -/
def toggleIcon : Theme → String
  | .light => "☾"
  | .dark => "☀"

def toggleLabel : Theme → String
  | .light => "Тёмная тема"
  | .dark => "Светлая тема"

end Theme

end ChatAssistant
