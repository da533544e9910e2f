/-!
What may stand at a path of the file system.
-/

namespace ChatAssistant

inductive FileEntry where
  | absent
  | file (content : List UInt8)
  /-- A file that may be neither read nor written. -/
  | locked
  | directory
  deriving DecidableEq, Repr

namespace FileEntry

/-- Only files have a content, and only for those who may read them. -/
def content? : FileEntry → Option (List UInt8)
  | .file content => some content
  | _ => none

def isFile : FileEntry → Bool
  | .file _ => true
  | .locked => true
  | _ => false

end FileEntry

end ChatAssistant
