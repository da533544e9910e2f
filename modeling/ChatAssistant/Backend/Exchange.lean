import ChatAssistant.Conversation

/-!
Questions sent to the backends. A backend is any function from the number of a call and its
text to an answer or a failure; the calls made to it are kept in order.
-/

namespace ChatAssistant

inductive BackendFailure where
  | unreachable
  | malformed
  /-- A status of refusal with a body that is no answer. -/
  | status (code : Nat) (body : String)
  deriving DecidableEq, Repr

namespace BackendFailure

def statusMessage (code : Nat) (body : String) : String :=
  "endpoint returned " ++ toString code ++ ": " ++ body

end BackendFailure

structure Backends where
  math : Nat → String → Except BackendFailure MathAnswer
  search : Nat → String → Except BackendFailure SearchAnswer

/-- The calculator of this program: it answers every call, and alike. -/
def Backends.localMath (answer : String → MathAnswer) :
    Nat → String → Except BackendFailure MathAnswer :=
  fun _ text => .ok (answer text)

structure Calls where
  math : List String := []
  search : List String := []
  deriving DecidableEq, Repr

/-- The reply to the outcome of a call; every failure is answered alike. -/
def Reply.ofOutcome {α : Type} (reply : α → Reply) : Except BackendFailure α → Reply
  | .ok answer => reply answer
  | .error _ => .failure

def Calls.resolve (calls : Calls) (backends : Backends) : Query → Reply × Calls
  | .math expression =>
      (.ofOutcome .ofMathAnswer (backends.math calls.math.length expression),
        { calls with math := calls.math ++ [expression] })
  | .search query =>
      (.ofOutcome (.ofSearchAnswer query) (backends.search calls.search.length query),
        { calls with search := calls.search ++ [query] })

structure Exchange where
  conversation : Conversation
  calls : Calls := {}
  deriving DecidableEq, Repr

/-- Asks a question and adds the reply to it. Says whether the question was taken. -/
def Exchange.send (exchange : Exchange) (backends : Backends) (now : Timestamp)
    (text : String) : Bool × Exchange :=
  match exchange.conversation.ask? now text with
  | none => (false, exchange)
  | some (query, asked) =>
      let (reply, calls) := exchange.calls.resolve backends query
      (true, ⟨asked.answer now reply, calls⟩)

end ChatAssistant
