import ChatAssistant.Text.Quoted
import ChatAssistant.Text.Utf8

/-!
Variables of an environment. One that holds a text is never replaced.
-/

namespace ChatAssistant

/-- What a variable may hold. -/
inductive Environment.Held where
  | text (content : String)
  /-- Bytes that are no text. -/
  | bytes (content : List UInt8) (ill_formed : Text.Utf8.decode? content = none)
  deriving DecidableEq, Repr

structure Environment where
  entries : List (String × Environment.Held) := []
  deriving DecidableEq, Repr

namespace Environment

def Held.text? : Held → Option String
  | .text content => some content
  | .bytes _ _ => none

def held? (environment : Environment) (name : String) : Option Held :=
  environment.entries.lookup name

/-- The text of a variable. One that holds none counts as absent. -/
def value? (environment : Environment) (name : String) : Option String :=
  (environment.held? name).bind Held.text?

/-- A variable that cannot be set, because the zero character ends a text in the environment. -/
structure Fault where
  name : String
  value : String
  deriving DecidableEq, Repr

def Fault.message (fault : Fault) : String :=
  let shown (text : String) := String.ofList (Text.quotedStrictly text.toList)
  "failed to set environment variable `" ++ shown fault.name ++ "` to `" ++ shown fault.value ++
    "`: file name contained an unexpected NUL byte"

def set (environment : Environment) (name value : String) : Environment :=
  ⟨environment.entries.filter (·.1 ≠ name) ++ [(name, .text value)]⟩

/-- Sets a variable that holds no text; leaves one that holds a text as it is, even if it is
blank. -/
def add (environment : Environment) (name value : String) : Except Fault Environment :=
  match environment.value? name with
  | some _ => .ok environment
  | none =>
      if value.toList.contains '\x00' then .error ⟨name, value⟩
      else .ok (environment.set name value)

end Environment

end ChatAssistant
