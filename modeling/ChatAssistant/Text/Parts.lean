/-!
Texts cut into parts.
-/

namespace ChatAssistant.Text

/-- The parts of a text between separators. There is always one part more than separators. -/
def parts (separates : Char → Bool) : List Char → List (List Char)
  | [] => [[]]
  | char :: text =>
      if separates char then [] :: parts separates text
      else
        match parts separates text with
        | [] => [[char]]
        | part :: rest => (char :: part) :: rest

def cut (mark : Char) (text : List Char) : List Char × Option (List Char) :=
  (text.takeWhile (· ≠ mark), (text.dropWhile (· ≠ mark)).tail?)

end ChatAssistant.Text
