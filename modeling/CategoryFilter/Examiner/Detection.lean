/-
Detection of a domain.

A domain that the memo has not seen is given to the local filter. Each match in an active category is
examined: an excluded one is left alone, a known hit or passthrough gets a new score, and any other
becomes a candidate. `detect` is the whole operation; `admits` and `examineResults` are its halves
before and after the answer of the filter.
-/

import CategoryFilter.Examiner.State
import CategoryFilter.Examiner.Surroundings

namespace CategoryFilter

/-- The pattern of a result: its item, or the domain asked about if it has none. -/
def FilterResult.pattern (r : FilterResult) (origin : String) : String :=
  if r.item.isEmpty then origin else r.item

namespace State

/-- Whether a domain is to be detected now; if so the memo records it. -/
def admits (s : State) (origin : String) (instant : Int) : State × Bool :=
  if s.session.enabled then
    let (memo, seen) := s.session.memo.seen origin instant
    ({ s with session := { s.session with memo := memo } }, !seen)
  else (s, false)

/-- Give a known hit or passthrough a new score, and say whether the match is unknown. -/
def recallMatch (keys : Category.SetKeys) (score : Score) (pattern origin : String) :
    Action Bool := do
  if ← Classification.isHit keys pattern then
    let _ ← Classification.addHit keys pattern score
    return false
  else if ← Classification.isPassthrough keys origin then
    let _ ← Classification.addPassthrough keys origin score
    return false
  else return true

/-- Examine a match, and say whether it became a new candidate. -/
def examineMatch (s : State) (score : Score) (category pattern origin : String) : State × Bool :=
  if (s.registry.exclusions category).coversAny [origin, pattern] then (s, false)
  else
    match s.apply (recallMatch (Category.setKeys category) score pattern origin) with
    | (s, true) =>
      let (queue, new) := s.session.queue.enqueue ⟨category, pattern, origin⟩
      (s.withQueue queue, new)
    | (s, false) => (s, false)

/-- The category of a result that is a match in an active category. -/
def matchedCategory? (s : State) (r : FilterResult) : Option String :=
  if r.status = .hit then
    (Category.ofFilterUid? r.uid).filter s.registry.isActive
  else none

/-- Examine one result of the local filter, and count a new candidate. -/
def examineResult (clock : Clock) (origin : String) (found : State × Nat)
    (r : FilterResult × Nat) : State × Nat :=
  match found.1.matchedCategory? r.1 with
  | some category =>
    let (s, new) := found.1.examineMatch (clock (.result r.2)) category (r.1.pattern origin) origin
    (s, if new then found.2 + 1 else found.2)
  | none => found

/-- Examine the results of the local filter, and count the new candidates. -/
def examineResults (s : State) (clock : Clock) (origin : String) (results : List FilterResult) :
    State × Nat :=
  results.zipIdx.foldl (examineResult clock origin) (s, 0)

/-- The question to the local filter about a detected domain. -/
def detectionRequest (origin : String) : FilterRequest :=
  ⟨origin, []⟩

/-- What follows the answer of the local filter. -/
def receiveFilter (s : State) (clock : Clock) (origin : String)
    (answer : Except Failure FilterResponse) : State × Nat :=
  match answer with
  | .ok response => s.examineResults clock origin response.results
  | .error _ => (s, 0)

/-- Detect a domain, and count the new candidates. -/
def detect (s : State) (around : Surroundings) (origin : String) : State × Nat :=
  match s.admits origin around.instant with
  | (s, true) =>
    let request := detectionRequest origin
    (s.ask [.filter request]).receiveFilter around.clock origin
      (around.services.checkFilter request)
  | (s, false) => (s, 0)

end State

end CategoryFilter
