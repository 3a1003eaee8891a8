/-
Which source confirms a category, and by which part of a candidate.

A list file goes before the cloud. In the cloud a mirrored category has its hash set and a curated one
the intel lookup. Without a source the local filter is trusted.
-/

import CategoryFilter.Candidate
import CategoryFilter.Category.Strategy

namespace CategoryFilter

/-- What confirms the matches of a category. -/
inductive Source where
  | file
  | cloud
  | intel
  | trusted
deriving Repr, DecidableEq

namespace Source

/-- The source of a category. -/
def select (strategy : Strategy) (style : Style) : Source :=
  if strategy.checkFile then .file
  else if strategy.checkCloud then if style.isMirrored then .cloud else .intel
  else .trusted

/-- The part of a candidate that the source is asked about. -/
def key (source : Source) (c : Candidate) : String :=
  match source with
  | .cloud | .trusted => c.pattern
  | .file | .intel => c.origin

/-- Whether confirmed patterns are fed back into enforcement. -/
def feedsEnforcement : Source → Bool
  | .cloud | .intel => true
  | .file | .trusted => false

end Source

end CategoryFilter
