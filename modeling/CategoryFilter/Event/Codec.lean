/-
Events and notices as JSON.

An event carries its kind as `type`. A notice about changed sets is written with a `type` too, but read
without it.
-/

import CategoryFilter.Event
import CategoryFilter.Json.Fields

namespace CategoryFilter

open Json (text?)

/-- The JSON form of an event. -/
def Event.toJson (e : Event) : Json :=
  let content := match e with
    | .domainDetected domain => ("domain", Json.text domain)
    | .filterUpdated category => ("category", Json.text category)
    | .categoryDeactivated category => ("category", Json.text category)
  .object [("type", .text e.kind), content]

/-- The event of a JSON form. -/
def Event.ofJson? (j : Json) : Option Event := do
  let (kind, rest) ← Json.tagged? "type" j
  match kind with
  | "DOMAIN_DETECTED" =>
    return .domainDetected (← (← Json.record? ["domain"] rest).required "domain" text?)
  | "FILTER_GENERATION_UPDATED" =>
    return .filterUpdated (← (← Json.record? ["category"] rest).required "category" text?)
  | "CATEGORY_DEACTIVATED" =>
    return .categoryDeactivated (← (← Json.record? ["category"] rest).required "category" text?)
  | _ => none

/-- The JSON form of a notice. -/
def SetsChanged.toJson (n : SetsChanged) : Json :=
  .object [("type", .text "UPDATE_CATEGORY_HITSET"), ("category", .text n.category)]

/-- The notice of a JSON form. -/
def SetsChanged.ofJson? (j : Json) : Option SetsChanged := do
  return ⟨← (← Json.record? ["category"] j).required "category" text?⟩

/-- The JSON form of a match report. -/
def MatchReport.toJson (r : MatchReport) : Json :=
  .object [("domain", .text r.domain)]

/-- The match report of a JSON form. -/
def MatchReport.ofJson? (j : Json) : Option MatchReport := do
  return ⟨← (← Json.record? ["domain"] j).required "domain" text?⟩

end CategoryFilter
