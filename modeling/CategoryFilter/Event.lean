/-
Events of the pipeline and the notice about changed sets.
-/

namespace CategoryFilter

/-- What the pipeline reacts to. -/
inductive Event where
  | domainDetected (domain : String)
  | filterUpdated (category : String)
  | categoryDeactivated (category : String)
deriving Repr, DecidableEq

/-- The name of an event's kind. -/
def Event.kind : Event → String
  | .domainDetected _ => "DOMAIN_DETECTED"
  | .filterUpdated _ => "FILTER_GENERATION_UPDATED"
  | .categoryDeactivated _ => "CATEGORY_DEACTIVATED"

/-- The notice that the sets of a category changed. -/
structure SetsChanged where
  category : String
deriving Repr, DecidableEq

/-- A bare report of a detected domain, as the match endpoint takes it. -/
structure MatchReport where
  domain : String
deriving Repr, DecidableEq

/-- A report is a detection. -/
def MatchReport.toEvent (r : MatchReport) : Event :=
  .domainDetected r.domain

end CategoryFilter
