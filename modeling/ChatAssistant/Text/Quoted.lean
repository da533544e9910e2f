import ChatAssistant.Text.Quoted.Escaped

/-!
Text between double quotes, on one line and with nothing invisible in it.
-/

namespace ChatAssistant.Text

def quotedByNumber (char : Char) : List Char :=
  ['\\', 'u', '\x7b'] ++ Nat.toDigits 16 char.toNat ++ ['\x7d']

/-- A character that shows nothing, or shows on another one. -/
def isHidden (char : Char) : Bool :=
  extendingCodePoints.has char || fillerCodePoints.has char || unprintableCodePoints.has char

def quotedCharacter (char : Char) : List Char :=
  if char = '\x00' then ['\\', '0']
  else if char = '\t' then ['\\', 't']
  else if char = '\n' then ['\\', 'n']
  else if char = '\r' then ['\\', 'r']
  else if char = '\"' then ['\\', '\"']
  else if char = '\\' then ['\\', '\\']
  else if isHidden char then
    quotedByNumber char
  else [char]

def quoted (text : List Char) : List Char :=
  '\"' :: text.flatMap quotedCharacter ++ ['\"']

def quotedStrictly (text : List Char) : List Char :=
  '\"' :: text.flatMap (fun char =>
    if char = '\'' then ['\\', '\''] else quotedCharacter char) ++ ['\"']

end ChatAssistant.Text
