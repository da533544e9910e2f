import ChatAssistant.Text.Lowercase.Context
import ChatAssistant.Text.Lowercase.Mapping

/-!
Lower case of whole text. Two letters need more than a table of single characters: the dotted
capital I becomes two characters, and a capital sigma is written in one of two forms.
-/

namespace ChatAssistant.Text

/-- Whether the first character that does not ignore case is a cased letter. -/
def meetsCased (text : List Char) : Bool :=
  match text.dropWhile caseIgnorableCodePoints.has with
  | [] => false
  | char :: _ => casedCodePoints.has char

/-- The form of a capital sigma between the text `before` it, nearest character first, and the
text `after` it: final at the end of a word that has begun before it. -/
def lowercaseSigma (before after : List Char) : Char :=
  if meetsCased before && !meetsCased after then 'ς' else 'σ'

def lowercaseAfter (before : List Char) : List Char → List Char
  | [] => []
  | char :: after =>
      (if char = 'Σ' then [lowercaseSigma before after]
        else if char = 'İ' then ['i', '\u0307']
        else [shiftCodePoint lowercaseMapping char])
        ++ lowercaseAfter (char :: before) after

def lowercase (text : List Char) : List Char :=
  lowercaseAfter [] text

end ChatAssistant.Text
