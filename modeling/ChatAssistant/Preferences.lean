import ChatAssistant.Preferences.Storage
import ChatAssistant.Text.Blank
import ChatAssistant.Text.Utf8
import ChatAssistant.Theme

/-!
The preferences: one flag for the dark theme, kept in a file. A change is tried on the file
once; the flag changes even if that fails.
-/

namespace ChatAssistant

/-- A way to save a content. It fails, or gives the storage after it. -/
abbrev Writer := Storage → List UInt8 → Option Storage

structure Preferences where
  isDark : Bool
  storage : Storage
  deriving DecidableEq, Repr

namespace Preferences

def flagText : Bool → List Char
  | true => ['t', 'r', 'u', 'e']
  | false => ['f', 'a', 'l', 's', 'e']

/-- A content is read as the flag only if it is the word for it, with white space around it at
most. Whatever else stands there means the light theme. -/
def readFlag (content : List UInt8) : Bool :=
  (Text.Utf8.decode? content).any fun text => Text.trim text = flagText true

def load (storage : Storage) : Preferences :=
  ⟨storage.content?.any readFlag, storage⟩

def theme (preferences : Preferences) : Theme :=
  Theme.ofFlag preferences.isDark

/-- Sets the flag, and saves it if that changes it. Says whether nothing went wrong. -/
def set (write : Writer) (isDark : Bool) (preferences : Preferences) : Bool × Preferences :=
  if preferences.isDark = isDark then (true, preferences)
  else
    match write preferences.storage (Text.Utf8.encode (flagText isDark)) with
    | some storage => (true, ⟨isDark, storage⟩)
    | none => (false, { preferences with isDark })

def toggle (write : Writer) (preferences : Preferences) : Bool × Preferences :=
  preferences.set write (!preferences.isDark)

/-- Forgets the flag for the one in the file. -/
def reload (preferences : Preferences) : Preferences :=
  load preferences.storage

end Preferences

end ChatAssistant
