/-
The interface of a running service.

A request with an event is answered when its event is on the channel, which may be later if the channel is
full. The other requests are answered at once.
-/

import CategoryFilter.Ingress.Router
import CategoryFilter.Service.Executor

namespace CategoryFilter

/-- How far a request has come. -/
inductive Progress where
  /-- It is answered. -/
  | answered (response : HttpResponse)
  /-- Its event was sent, as the one with a number. -/
  | sent (event : Event) (number : Nat)
deriving Repr

/-- The answer to a request, if there is one while the channel is as it is. -/
def Progress.answer? (c : Channel) : Progress → Option HttpResponse
  | .answered response => some response
  | .sent event number =>
    match c.fate number with
    | .put => some (Ingress.accepted event)
    | .waits => none
    | .refused => some ApiError.unavailable.respond

namespace Executor

/-- Serve a request to the interface that feeds a channel. -/
def serve (ex : Executor) (intake : Intake) (n : Nat) (r : HttpRequest) : Executor × Progress :=
  let (s, reaction) := Ingress.handle intake ex.state ex.score r
  let ex := { ex with state := s }
  match reaction with
  | .answer response => (ex, .answered response)
  | .send event =>
    match ex.send n event with
    | (ex, some number) => (ex, .sent event number)
    | (ex, none) => (ex, .answered ApiError.unavailable.respond)

end Executor

end CategoryFilter
