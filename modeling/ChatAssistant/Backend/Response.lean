import ChatAssistant.Backend.Chunk
import ChatAssistant.Text.Charset.Label

/-!
Responses: what a connection brings, and the text that it holds.
-/

namespace ChatAssistant

structure Response where
  status : Nat
  contentType : Option (List Char) := none
  location : Option (List Char) := none
  body : List UInt8
  deriving DecidableEq, Repr

namespace Response

open Text

def isSuccess (response : Response) : Bool :=
  200 ≤ response.status && response.status < 300

def isFault (response : Response) : Bool :=
  400 ≤ response.status && response.status < 600

/-- The character set of the body: the one its media type names, if that is known. -/
def charset (response : Response) : Charset.Decoder :=
  ((response.contentType.bind MediaType.charset?).bind Charset.ofLabel?).getD Utf8.decode

def text (response : Response) : List Char :=
  Charset.decodeMarked response.charset response.body

def readBody? (measure : Head.Measure) (bytes : List UInt8) : Option (List UInt8) :=
  match measure with
  | .nothing => some []
  | .chunks => Chunk.readBody? bytes
  | .bytes count => if count ≤ bytes.length then some (bytes.take count) else none
  | .toEnd => some bytes

/-- Reads responses up to the first that is no interim one. `fuel` bounds their number. -/
def readFrom? : Nat → List UInt8 → Option Response
  | 0, _ => none
  | fuel + 1, bytes => do
      let (head, rest) ← Head.read? bytes
      if head.isInterim then readFrom? fuel rest
      else
        return {
          status := head.status
          contentType := (head.valuesOf "content-type").head?
          location := (head.valuesOf "location").head?
          body := ← readBody? (← head.measure?) rest }

/-- The response that a connection brings, if all of it arrives and it is well formed. -/
def read? (bytes : List UInt8) : Option Response :=
  readFrom? (bytes.length + 1) bytes

end Response

end ChatAssistant
