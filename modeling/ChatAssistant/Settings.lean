import ChatAssistant.Decimal.Basic
import ChatAssistant.Text.Blank
import ChatAssistant.Text.Quoted

/-!
Settings of the program. They are looked up by name among the variables of its environment; a
variable of white space alone counts as absent.
-/

namespace ChatAssistant

structure Settings where
  mathEndpoint : Option String := none
  searchEndpoint : Option String := none
  /-- In seconds. Without it requests may take for ever. -/
  requestTimeout : Option Nat := none
  dataDirectory : Option String := none
  deriving DecidableEq, Repr

namespace Settings

def mathEndpointName : String := "ROTYCHAT_MATH_ENDPOINT"

def searchEndpointName : String := "ROTYCHAT_SEARCH_ENDPOINT"

def requestTimeoutName : String := "ROTYCHAT_REQUEST_TIMEOUT_SECS"

def dataDirectoryName : String := "ROTYCHAT_DATA_DIR"

/-- What a variable holds, without the white space around it. -/
def value? (lookup : String → Option String) (name : String) : Option String :=
  ((lookup name).map fun text => String.ofList (Text.trim text.toList)).filter (!·.isEmpty)

inductive TimeoutFault where
  | invalidDigit
  | tooLarge
  deriving DecidableEq, Repr

def TimeoutFault.cause : TimeoutFault → String
  | .invalidDigit => "invalid digit found in string"
  | .tooLarge => "number too large to fit in target type"

def timeoutLimit : Nat := UInt64.size

/-- Reads digits up to the first fault, be it a character that is none or one digit too many. -/
def readSeconds : Nat → List Char → Except TimeoutFault Nat
  | seconds, [] => .ok seconds
  | seconds, char :: text =>
      if char.isDigit then
        let next := seconds * 10 + (char.toNat - '0'.toNat)
        if next < timeoutLimit then readSeconds next text else .error .tooLarge
      else .error .invalidDigit

/-- A number of seconds may have one plus sign, and has at least one digit. -/
def seconds : List Char → Except TimeoutFault Nat
  | [] => .error .invalidDigit
  | ['+'] => .error .invalidDigit
  | '+' :: digits => readSeconds 0 digits
  | digits => readSeconds 0 digits

structure Fault where
  text : String
  fault : TimeoutFault
  deriving DecidableEq, Repr

def Fault.message (fault : Fault) : String :=
  requestTimeoutName ++ " must be a whole number of seconds, got " ++
    String.ofList (Text.quoted fault.text.toList) ++ ": " ++ fault.fault.cause

/-- A timeout of zero is none. -/
def readTimeout : Option String → Except Fault (Option Nat)
  | none => .ok none
  | some text =>
      match seconds text.toList with
      | .ok number => .ok (if number = 0 then none else some number)
      | .error fault => .error ⟨text, fault⟩

def read (lookup : String → Option String) : Except Fault Settings := do
  let timeout ← readTimeout (value? lookup requestTimeoutName)
  return {
    mathEndpoint := value? lookup mathEndpointName
    searchEndpoint := value? lookup searchEndpointName
    requestTimeout := timeout
    dataDirectory := value? lookup dataDirectoryName }

def below (directory path : String) : String :=
  if directory.isEmpty || directory.toList.getLast? = some '/' then directory ++ path
  else directory ++ "/" ++ path

/-- Where the user's own files are. -/
def homeName : String := "HOME"

/-- Where programs are to keep data, if not in their usual place below the user's files. -/
def dataHomeName : String := "XDG_DATA_HOME"

/-- Where programs keep the data of a user. Only an absolute path replaces the usual place. -/
def userData (lookup : String → Option String) : String :=
  ((lookup dataHomeName).filter fun path => path.toList.head? = some '/').getD
    (below ((lookup homeName).getD "") ".local/share")

def storageDirectory (settings : Settings) (lookup : String → Option String) : String :=
  settings.dataDirectory.getD (below (userData lookup) "rotychat")

end Settings

end ChatAssistant
