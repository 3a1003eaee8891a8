/-
Asking the services over HTTP.

`Call` is a request as it arrives at a service. A question is a call, unless its address or its token
cannot be sent; an answer is of use if it reports success and its body can be read.
-/

import CategoryFilter.Event.Codec
import CategoryFilter.Failure
import CategoryFilter.Json.Reader
import CategoryFilter.Services.Endpoint
import CategoryFilter.Services.Message
import CategoryFilter.Services.Url

namespace CategoryFilter

/-- A request to a service. -/
structure Call where
  method : String
  /-- The path and the query. -/
  target : String
  /-- The value of the authorization header. -/
  authorization : Option String
  contentType : Option String
  body : Option Json
deriving Repr

/-- The answer of a service. -/
structure Reply where
  status : Nat
  body : ByteArray

namespace Call

/-- The name by which the requests introduce themselves. -/
def userAgent : String := "Catwatch/0.3.0"

/-- Whether a character may stand in a header. -/
def isHeaderChar (c : Char) : Bool :=
  c == '\t' || (0x20 ≤ c.toNat && c.toNat != 0x7F)

/-- The header that shows a token, without the blanks at its ends; a token with a control character has
none. -/
def bearer? (token : String) : Option String :=
  if token.toList.all isHeaderChar then
    some (String.ofList (Text.trim ("Bearer " ++ token).toList))
  else none

/-- The header of a token that may be absent. -/
def authorization? : Option String → Option (Option String)
  | none => some none
  | some token => (bearer? token).map some

/-- A request that sends JSON. -/
def post? (url : String) (token : Option String) (body : Json) : Option Call := do
  return ⟨"POST", ← Url.requestTarget? url, ← authorization? token, some "application/json",
    some body⟩

/-- A request without a body. -/
def get? (url : String) (token : Option String) : Option Call := do
  return ⟨"GET", ← Url.requestTarget? url, ← authorization? token, none, none⟩

/-- The question to the local filter at a base. -/
def filter? (base : String) (request : FilterRequest) : Option Call :=
  post? (Endpoint.filter base) none request.toJson

/-- The question about the members of a hash set. -/
def membership? (base : String) (token : Option String) (request : MembershipRequest) :
    Option Call :=
  post? (Endpoint.membership base) token request.toJson

/-- The question for the records about a domain. -/
def intel? (base : String) (token : Option String) (domain : String) : Option Call :=
  get? (Endpoint.intel base domain) token

/-- The notice that sets changed, forwarded to an address. Its reply does not matter. -/
def notice? (url : String) (n : SetsChanged) : Option Call :=
  post? url none n.toJson

end Call

namespace Reply

/-- Whether the status reports a fault of the request or of the service. -/
def isFault (r : Reply) : Bool :=
  400 ≤ r.status && r.status < 600

/-- Whether an answer with this status never has a body. -/
def isBodyless (r : Reply) : Bool :=
  r.status < 200 || r.status == 204 || r.status == 304

/-- The value in a reply. -/
def read {α : Type} (value : Json → Option α) (r : Reply) : Except Failure α :=
  if r.isFault || r.isBodyless then .error .http
  else
    match (Json.readBytes r.body).bind value with
    | some a => .ok a
    | none => .error .http

end Reply

/-- Make a call, if it can be sent, over a line that may be refused: the value that comes back. -/
def Call.ask {α : Type} (line : Call → Option Reply) (value : Json → Option α)
    (call : Option Call) : Except Failure α :=
  match call.bind line with
  | some reply => reply.read value
  | none => .error .http

end CategoryFilter
