import ChatAssistant.Backend.Exchange
import ChatAssistant.Backend.InstantAnswer
import ChatAssistant.Backend.Request
import ChatAssistant.Text.FormEncoding

/-!
Backends behind an address: the request that carries a question, and the answer that a response
holds.
-/

namespace ChatAssistant

namespace Endpoint

def request (url : Url) (query : Query) : Request where
  method := .post
  url := url
  contentType := some "application/json"
  body := query.toJson.text

/-- A body that holds an answer is one whatever the status; the status matters for the others
alone. No response means that the backend could not be reached. -/
def outcome {α : Type} (read? : List Char → Option α) (response? : Option Response) :
    Except BackendFailure α :=
  match response? with
  | none => .error .unreachable
  | some response =>
      match read? response.text with
      | some answer => .ok answer
      | none =>
          if response.isSuccess then .error .malformed
          else .error (.status response.status (String.ofList response.text))

end Endpoint

namespace InstantAnswer

/-- The question and the options that go with each stand in the query of the address. -/
def url (query : String) : Url where
  isSecure := true
  site := .name "api.duckduckgo.com".toList
  query := some ("q=".toList ++ Text.formEncoded query.toList ++
    "&format=json&no_html=1&skip_disambig=1".toList)

def request (query : String) : Request where
  method := .get
  url := url query
  userAgent := some "RotyChat/1.0"

/-- A response of refusal is not read at all. -/
def outcome (query : String) (response? : Option Response) :
    Except BackendFailure SearchAnswer :=
  match response? with
  | none => .error .unreachable
  | some response =>
      if response.isFault then .error .unreachable
      else
        match InstantAnswer.read? response.text with
        | some answer => .ok (answer.searchAnswer query)
        | none => .error .malformed

end InstantAnswer

end ChatAssistant
