import ChatAssistant.Backend.Response
import ChatAssistant.Backend.Url

/-!
Requests, and the way a request takes when responses send it on.
-/

namespace ChatAssistant

inductive Method where
  | get
  | post
  deriving DecidableEq, Repr

structure Request where
  method : Method
  url : Url
  contentType : Option String := none
  userAgent : Option String := none
  body : String := ""
  deriving DecidableEq, Repr

/-- The places that can be reached, and the response to the request of each number. -/
structure Net where
  reaches : Url → Bool
  respond : Nat → Option Response

namespace Request

open Text

/-- A place as a request names it: in full, if it is a secure one. -/
def target (request : Request) : String :=
  String.ofList (if request.url.isSecure then request.url.text else request.url.placeText)

/-- Where a response sends a request. A response of these statuses that names no place, or none
that is well formed, is like any other. -/
def next? (request : Request) (response : Response) : Option Url.Destination :=
  if [301, 302, 303, 307, 308].contains response.status then do
    let location ← response.location
    request.url.resolve? (← Utf8.decode? (location.map fun char => UInt8.ofNat char.toNat))
  else none

/-- A request that has been sent on. Only two statuses leave it as it is; the others make it a
question without a body. -/
def sentOn (request : Request) (status : Nat) (url : Url) : Request :=
  if status = 307 ∨ status = 308 then { request with url }
  else { request with method := .get, url, contentType := none, body := "" }

def hopLimit : Nat := 10

/-- The requests that a request leads to, itself the first, and the last response. `hops` is
how often it may still be sent on. -/
def followFrom (net : Net) : Nat → Nat → Request → List Request × Option Response
  | hops, number, request =>
      match net.respond number with
      | none => ([request], none)
      | some response =>
          match request.next? response with
          | none => ([request], some response)
          | some .foreign => ([request], none)
          | some (.place url) =>
              match hops with
              | 0 => ([request], none)
              | hops + 1 =>
                  if net.reaches url then
                    let (requests, last) :=
                      followFrom net hops (number + 1) (request.sentOn response.status url)
                    (request :: requests, last)
                  else ([request], none)

def follow (net : Net) (number : Nat) (request : Request) : List Request × Option Response :=
  followFrom net hopLimit number request

end Request

end ChatAssistant
