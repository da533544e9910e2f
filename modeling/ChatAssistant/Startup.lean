import ChatAssistant.Environment.Basic
import ChatAssistant.Environment.Defaults
import ChatAssistant.FileEntry
import ChatAssistant.Settings

/-!
The start of the program: a file of assignments is added to the environment, or the defaults where
there is no file to be read to its end, and the settings are read from the variables that are there
then.
-/

namespace ChatAssistant

/-- The environment and the number of windows that have been opened in it. -/
structure Startup where
  environment : Environment
  launches : Nat
  deriving DecidableEq, Repr

namespace Startup

/-- The first file on the way up from the working directory, whether it can be read or not. -/
def selected? (places : List FileEntry) : Option FileEntry :=
  places.find? FileEntry.isFile

def content? (places : List FileEntry) : Option (List UInt8) :=
  (selected? places).bind FileEntry.content?

def ownAssignments (places : List FileEntry) : List Environment.Assignment :=
  (content? places).elim [] Environment.assignments

/-- Only a file that is read to its end keeps the defaults away. What has been added from it up to
then stays. -/
def loaded (environment : Environment) (places : List FileEntry) :
    Except Environment.Fault Environment := do
  let own ← environment.addAll (ownAssignments places)
  if (content? places).any Environment.isGoodFile then return own
  else own.addAll Environment.defaults

def launch (startup : Startup) : Startup :=
  { startup with launches := startup.launches + 1 }

/-- The window is opened whatever the files hold, except that the program stops at a variable that
cannot be set. -/
def run (environment : Environment) (places : List FileEntry) :
    Except Environment.Fault Startup := do
  return launch ⟨← loaded environment places, 0⟩

def settings (startup : Startup) : Except Settings.Fault Settings :=
  Settings.read startup.environment.value?

end Startup

end ChatAssistant
