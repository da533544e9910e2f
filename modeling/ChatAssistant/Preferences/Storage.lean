import ChatAssistant.FileEntry

/-!
The place where the preferences are kept: one file in a directory that may not be there yet.
-/

namespace ChatAssistant

inductive Storage where
  /-- The path of the directory cannot become one. -/
  | blocked
  | missing
  /-- The directory, with what stands in it in the place of the file. -/
  | directory (entry : FileEntry)
  deriving DecidableEq, Repr

namespace Storage

def content? : Storage → Option (List UInt8)
  | .directory entry => entry.content?
  | _ => none

/-- Replaces the content of the file. The directory and the file are made where they are
missing; it fails where something else is in their place, or a file that may not be written. -/
def save? (storage : Storage) (content : List UInt8) : Option Storage :=
  match storage with
  | .blocked => none
  | .directory .directory => none
  | .directory .locked => none
  | .missing => some (.directory (.file content))
  | .directory _ => some (.directory (.file content))

def remove : Storage → Storage
  | .blocked => .blocked
  | _ => .missing

end Storage

end ChatAssistant
