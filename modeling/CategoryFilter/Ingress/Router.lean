/-
The local HTTP interface.

Two endpoints take events for the event channel, with names in normal form; the others report health and
read or set the feature switch. The library below the interface reads the body of a request, or answers
itself.
-/

import CategoryFilter.Domain.Normal
import CategoryFilter.Event.Codec
import CategoryFilter.Examiner.State
import CategoryFilter.Ingress.Switch
import CategoryFilter.Text.Pieces
import CategoryFilter.Text.Quoted

namespace CategoryFilter

/-- A request to the interface. -/
structure HttpRequest where
  method : String
  /-- The path, with the query if there is one. -/
  path : String
  contentType : Option String
  body : ByteArray

/-- An answer of the interface; a body that is not JSON is left out. -/
structure HttpResponse where
  status : Nat
  body : Option Json
deriving Repr

/-- How the library reads the body of a request: the body, or the status of an answer of its own. -/
abbrev Intake := HttpRequest → Except Nat ByteArray

/-- The size of the largest body, 2 MiB. -/
def bodyLimit : Nat := 2 * 1024 * 1024

/-- Bodies within the limit are read. -/
def Intake.standard : Intake := fun r =>
  if r.body.size ≤ bodyLimit then .ok r.body else .error 413

/-- What comes of a request. -/
inductive Reaction where
  /-- It is answered. -/
  | answer (response : HttpResponse)
  /-- An event goes to the channel, and the answer is about what becomes of it. -/
  | send (event : Event)
deriving Repr

/-- Why a request was refused. -/
inductive ApiError where
  | badRequest (text : String)
  | unavailable
  | examiner (cause : Failure)
deriving Repr, DecidableEq

namespace ApiError

/-- The message of a refusal. -/
def message : ApiError → String
  | .badRequest text => "bad request: " ++ text
  | .unavailable => "examiner unavailable"
  | .examiner cause => "examiner error: " ++ cause.message

/-- The short name of a refusal. -/
def code : ApiError → String
  | .badRequest _ => "bad_request"
  | .unavailable => "unavailable"
  | .examiner _ => "examiner_error"

def status : ApiError → Nat
  | .badRequest _ => 400
  | .unavailable => 503
  | .examiner _ => 500

/-- The answer to a refused request. -/
def respond (e : ApiError) : HttpResponse :=
  ⟨e.status, some (.object [("error", .text e.message), ("code", .text e.code)])⟩

end ApiError

namespace Ingress

/-- The version that the interface reports. -/
def version : String := "0.3.0"

/-- The window of the hits that health reports: a day. -/
def recentWindow : Nat := 24 * 60 * 60 * 1000

/-- The event as it goes to the channel, if it is well formed. -/
def accept (event : Event) : Except ApiError Event :=
  match event with
  | .domainDetected raw =>
    match Domain.normalize raw with
    | some domain => .ok (.domainDetected domain)
    | none => .error (.badRequest ("invalid domain: " ++ Text.quoted raw))
  | .filterUpdated category | .categoryDeactivated category =>
    if category.isEmpty then .error (.badRequest "empty category") else .ok event

/-- The event in the body of a match report. -/
def matchEvent (body : ByteArray) : Except ApiError Event :=
  match (Json.readBytes body).bind MatchReport.ofJson? with
  | some report => .ok report.toEvent
  | none => .error (.badRequest "invalid match message:")

/-- The event in the body of an event request. -/
def taggedEvent (body : ByteArray) : Except ApiError Event :=
  match (Json.readBytes body).bind Event.ofJson? with
  | some event => .ok event
  | none => .error (.badRequest "invalid event:")

/-- What comes of an event, if one was read. -/
def submit (event : Except ApiError Event) : Reaction :=
  match event.bind accept with
  | .error e => .answer e.respond
  | .ok event => .send event

/-- The answer when an event is on the channel. -/
def accepted (event : Event) : HttpResponse :=
  ⟨202, some (.object [("accepted", .text event.kind)])⟩

/-- What comes of a request with an event in its body. -/
def receive (intake : Intake) (read : ByteArray → Except ApiError Event) (r : HttpRequest) : Reaction :=
  match intake r with
  | .error status => .answer ⟨status, none⟩
  | .ok body => submit (read body)

/-- The report of health. -/
def health (s : State) (now : Score) : HttpResponse :=
  match s.recentHits recentWindow now with
  | .error cause => (ApiError.examiner cause).respond
  | .ok hits =>
    ⟨200, some (.object [("status", .text "ok"), ("enabled", .bool s.session.enabled),
      ("queued", .integer s.session.queue.size), ("recent_hits", .integer hits),
      ("version", .text version)])⟩

/-- The report of the feature switch. -/
def feature (s : State) : HttpResponse :=
  ⟨200, some (.object [("enabled", .bool s.session.enabled)])⟩

/-- The characters of a token in a header. -/
def isTokenChar (c : Char) : Bool :=
  c.isAlphanum || "!#$%&'*+-.^_|~".toList.contains c || c.toNat == 0x60

/-- Whether a parameter of a content type has a name and a value. -/
def isParameter (cs : List Char) : Bool :=
  let name := cs.takeWhile (· != '=')
  !name.isEmpty && name.all isTokenChar && name.length + 1 < cs.length

/-- Whether a content type is JSON: `application/json`, or a type that ends in `+json`. -/
def isJsonType (contentType : String) : Bool :=
  match Text.pieces (· == ';') (Text.lowerAscii contentType.toList) with
  | [] => false
  | essence :: parameters =>
    match Text.pieces (· == '/') (Text.dropEnd (· == ' ') essence) with
    | [main, sub] =>
      let family := ((Text.pieces (· == '+') sub).getLast?).getD []
      main == "application".toList && sub.all isTokenChar &&
        (sub == "json".toList || (family == "json".toList && family.length + 1 < sub.length) ||
          ("json+".toList.isPrefixOf sub && !(sub.drop 5).contains '+')) &&
        parameters.all fun p =>
          let p := p.dropWhile (· == ' ')
          p.isEmpty || isParameter p
    | _ => false

/-- Switch the feature as a request asks. -/
def setFeature (intake : Intake) (s : State) (r : HttpRequest) : State × HttpResponse :=
  if !(r.contentType.map isJsonType).getD false then (s, ⟨415, none⟩)
  else
    match intake r with
    | .error status => (s, ⟨status, none⟩)
    | .ok body =>
      match Switch.read body with
      | .error .syntactic => (s, ⟨400, none⟩)
      | .error .shape => (s, ⟨422, none⟩)
      | .ok enabled =>
        match s.setEnabled enabled with
        | (s, .ok ()) => (s, feature s)
        | (s, .error cause) => (s, (ApiError.examiner cause).respond)

/-- An answer without its body, as a request for the head asks. -/
def headOnly (r : HttpResponse) : HttpResponse := { r with body := none }

/-- What comes of a request, and the state after it. -/
def handle (intake : Intake) (s : State) (now : Score) (r : HttpRequest) : State × Reaction :=
  let path := String.ofList (r.path.toList.takeWhile (· != '?'))
  let wrongMethod : State × Reaction := (s, .answer ⟨405, none⟩)
  match path with
  | "/api/events/match" =>
    if r.method = "POST" then (s, receive intake matchEvent r) else wrongMethod
  | "/api/events" =>
    if r.method = "POST" then (s, receive intake taggedEvent r) else wrongMethod
  | "/api/health" =>
    if r.method = "GET" then (s, .answer (health s now))
    else if r.method = "HEAD" then (s, .answer (headOnly (health s now)))
    else wrongMethod
  | "/api/feature" =>
    if r.method = "GET" then (s, .answer (feature s))
    else if r.method = "HEAD" then (s, .answer (headOnly (feature s)))
    else if r.method = "PUT" then
      let (s, response) := setFeature intake s r
      (s, .answer response)
    else wrongMethod
  | _ => (s, .answer ⟨404, none⟩)

end Ingress

end CategoryFilter
