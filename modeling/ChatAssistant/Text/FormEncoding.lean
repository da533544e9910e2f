import ChatAssistant.Text.PercentEncoding

/-!
Text as it is written in the query of an address: a space becomes a plus sign, and bytes
without a place there become a percent sign and two digits.
-/

namespace ChatAssistant.Text

def isFormSafe (char : Char) : Bool :=
  char.isAlphanum || char = '*' || char = '-' || char = '.' || char = '_'

def formEncoded (text : List Char) : List Char :=
  text.flatMap fun char =>
    if char = ' ' then ['+'] else percentEncodedUnless isFormSafe [char]

end ChatAssistant.Text
