import ChatAssistant.Text.CodePoints

/-!
White space, and text without the white space around it.
-/

namespace ChatAssistant.Text

/-- The code points of the property White_Space. -/
def blankCodePoints : CodePoints :=
  [ (0x0009, 0x000D), (0x0020, 0x0020), (0x0085, 0x0085), (0x00A0, 0x00A0), (0x1680, 0x1680),
    (0x2000, 0x200A), (0x2028, 0x2029), (0x202F, 0x202F), (0x205F, 0x205F), (0x3000, 0x3000)]

def isBlank (char : Char) : Bool :=
  blankCodePoints.has char

def trim (text : List Char) : List Char :=
  ((text.dropWhile isBlank).reverse.dropWhile isBlank).reverse

end ChatAssistant.Text
