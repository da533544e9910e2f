import ChatAssistant.Proofs.Exchange.Sequence
import ChatAssistant.Session

/-!
Statuses of responses. What is said depends on the media type and the body that an endpoint sends
and never on the status, in the reply to one question and over a whole exchange.
-/

namespace ChatAssistant

namespace Request

variable {net : Net} {request : Request} {number : Nat} {response : Response}

theorem follow_of_final (answered : net.respond number = some response)
    (final : request.next? response = none) :
    (request.follow net number).2 = some response := by
  unfold follow followFrom
  rw [answered]
  dsimp only
  rw [final]

end Request

namespace Response

def content (response : Response) : Option (List Char) × List UInt8 :=
  (response.contentType, response.body)

theorem text_eq_of_content {first second : Response} (same : first.content = second.content) :
    first.text = second.text := by
  obtain ⟨type, body⟩ := Prod.mk.inj same
  rw [text, text, charset, charset, type, body]

end Response

def Query.replyIn? (text : List Char) : Query → Option Reply
  | .math _ => (MathAnswer.read? text).map .ofMathAnswer
  | .search query => (SearchAnswer.read? text).map (.ofSearchAnswer query)

namespace Endpoint

/-- An answer is used whatever the status is, and without one all statuses come to the same. -/
theorem ofOutcome_outcome {α : Type} (read? : List Char → Option α) (reply : α → Reply)
    (response : Response) :
    Reply.ofOutcome reply (outcome read? (some response)) =
      ((read? response.text).map reply).getD .failure := by
  cases decoded : read? response.text with
  | some answer =>
      simp only [outcome, decoded]
      rfl
  | none =>
      simp only [outcome, decoded]
      split
      · rfl
      · rfl

theorem endpointReply_some (response : Response) (query : Query) :
    Host.endpointReply (some response) query = (query.replyIn? response.text).getD .failure := by
  cases query with
  | math expression => exact ofOutcome_outcome _ _ response
  | search query => exact ofOutcome_outcome _ _ response

/-- The response that the request of a question comes to in the end. Each call has a net of its
own. -/
def last? (url : Route → Url) (net : Route → Nat → Net) (call : Nat) (query : Query) :
    Option Response :=
  ((request (url query.route) query).follow (net query.route call) 0).2

def backends (url : Route → Url) (net : Route → Nat → Net) : Backends where
  math call expression := outcome MathAnswer.read? (last? url net call (.math expression))
  search call query := outcome SearchAnswer.read? (last? url net call (.search query))

variable {url : Route → Url} {net net' : Route → Nat → Net}

theorem resolve_backends (calls : Calls) (query : Query) :
    (calls.resolve (backends url net) query).1 =
      Host.endpointReply (last? url net (calls.count query.route) query) query := by
  cases query with
  | math expression => rfl
  | search query => rfl

theorem endpointReply_of_content {first second : Option Response}
    (same : first.map Response.content = second.map Response.content) (query : Query) :
    Host.endpointReply first query = Host.endpointReply second query := by
  cases first with
  | none =>
      cases second with
      | none => rfl
      | some second => cases same
  | some first =>
      cases second with
      | none => cases same
      | some second =>
          have text := Response.text_eq_of_content (Option.some.inj same)
          rw [endpointReply_some, endpointReply_some, text]

/-- Two responses of the same media type and body lead to the same reply, whatever their statuses
are: the one that the body holds, or the general one for failures if it holds none. -/
theorem resolve_of_content (calls : Calls) {query : Query} {first second : Response}
    (answered : last? url net (calls.count query.route) query = some first)
    (answered' : last? url net' (calls.count query.route) query = some second)
    (type : first.contentType = second.contentType) (body : first.body = second.body) :
    (calls.resolve (backends url net) query).1 = (calls.resolve (backends url net') query).1 ∧
      (∀ reply, query.replyIn? first.text = some reply →
        (calls.resolve (backends url net) query).1 = reply) ∧
      (query.replyIn? first.text = none →
        (calls.resolve (backends url net) query).1 = .failure) := by
  have same : (some first).map Response.content = (some second).map Response.content :=
    congrArg some (Prod.ext type body)
  rw [resolve_backends, resolve_backends, answered, answered']
  refine ⟨endpointReply_of_content same query, ?_, ?_⟩
  · intro reply held
    rw [endpointReply_some, held, Option.getD_some]
  · intro none
    rw [endpointReply_some, none, Option.getD_none]

/-- A refusal with an error in its body, and the same body with the status of success. -/
theorem resolve_of_content_refused :
    let url : Route → Url := fun _ => ⟨false, .name "localhost".toList, some 8081, [[]], none⟩
    let answer (status : Nat) : Response :=
      { status, body := "\x7b\"error\":\"1/0\"\x7d".toUTF8.data.toList }
    let net (status : Nat) : Route → Nat → Net :=
      fun _ _ => ⟨fun _ => true, fun _ => some (answer status)⟩
    let calls : Calls := {}
    last? url (net 500) 0 (.math "1/0") = some (answer 500) ∧
      last? url (net 200) 0 (.math "1/0") = some (answer 200) ∧
      (calls.resolve (backends url (net 500)) (.math "1/0")).1 = { content := "1/0" } ∧
      (calls.resolve (backends url (net 200)) (.math "1/0")).1 = { content := "1/0" } := by
  intro url answer net calls
  let query : Query := .math "1/0"
  have answered (status : Nat) (final : status ∉ [301, 302, 303, 307, 308]) :
      last? url (net status) (calls.count query.route) query = some (answer status) := by
    apply Request.follow_of_final rfl
    simp [Request.next?, answer, final]
  have refused := answered 500 (by decide)
  have taken := answered 200 (by decide)
  have held : query.replyIn? (answer 500).text = some { content := "1/0" } := by
    decide +kernel
  obtain ⟨alike, decoded, _⟩ := resolve_of_content calls refused taken rfl rfl
  refine ⟨refused, taken, decoded _ held, ?_⟩
  rw [← alike]
  exact decoded _ held

end Endpoint

namespace Exchange

/-- Nothing in an exchange tells two pairs of backends apart whose replies are the same. -/
theorem sendAll_of_replies {first second : Backends}
    (same : ∀ (calls : Calls) (query : Query),
      (calls.resolve first query).1 = (calls.resolve second query).1)
    (exchange : Exchange) (inputs : List (Timestamp × String)) :
    exchange.sendAll first inputs = exchange.sendAll second inputs := by
  have resolved (calls : Calls) (query : Query) :
      calls.resolve first query = calls.resolve second query := by
    refine Prod.ext (same calls query) ?_
    cases query with
    | math expression => rfl
    | search query => rfl
  have sent (exchange : Exchange) (now : Timestamp) (text : String) :
      exchange.send first now text = exchange.send second now text := by
    simp only [send, resolved]
  induction inputs generalizing exchange with
  | nil => rfl
  | cons input inputs ih => simp only [sendAll, sent, ih]

theorem sendAll_of_content {url : Route → Url} {net net' : Route → Nat → Net}
    (same : ∀ call query, (Endpoint.last? url net call query).map Response.content =
      (Endpoint.last? url net' call query).map Response.content)
    (exchange : Exchange) (inputs : List (Timestamp × String)) :
    exchange.sendAll (Endpoint.backends url net) inputs =
      exchange.sendAll (Endpoint.backends url net') inputs := by
  apply sendAll_of_replies
  intro calls query
  rw [Endpoint.resolve_backends, Endpoint.resolve_backends]
  exact Endpoint.endpointReply_of_content (same _ query) query

end Exchange

end ChatAssistant
