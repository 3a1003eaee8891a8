/-
How a category's matches are confirmed.

The strategy says whether matches are recorded at all and which kind of source has to confirm them; the
style says how a source in the cloud is asked. A mirrored category is a copy of one hash set, and its
patterns are checked against that set. A curated one is put together from several lists, and the
origins are looked up by themselves.
-/

namespace CategoryFilter

/-- What is done with the matches of a category. -/
structure Strategy where
  updateConfirmSet : Bool
  checkCloud : Bool
  checkFile : Bool
deriving Repr, DecidableEq

namespace Strategy

/-- Matches are confirmed in the cloud. -/
def cloud : Strategy := ⟨true, true, false⟩

/-- Matches are confirmed by a list file. -/
def file : Strategy := ⟨true, false, true⟩

/-- Matches are recorded without another source. -/
def trustLocal : Strategy := ⟨true, false, false⟩

/-- Matches are not recorded. -/
def ignore : Strategy := ⟨false, false, false⟩

/-- A strategy that nobody chose. -/
def standard : Strategy := cloud

/-- Whether a source besides the local filter is asked. -/
def needsConfirmation (s : Strategy) : Bool :=
  s.checkCloud || s.checkFile

end Strategy

/-- How a category is confirmed in the cloud. -/
inductive Style where
  | mirrored (hashSetId : Option String)
  | curated (aliases : List String)
deriving Repr, DecidableEq

namespace Style

/-- A mirrored category whose hash set is named after it. -/
def standard : Style := .mirrored none

def isMirrored : Style → Bool
  | .mirrored _ => true
  | .curated _ => false

/-- The hash set of a category. -/
def hashSetId (style : Style) (category : String) : String :=
  match style with
  | .mirrored (some id) => id
  | _ => "app." ++ category

/-- Names of further categories that count as this one. -/
def aliases : Style → List String
  | .mirrored _ => []
  | .curated aliases => aliases

end Style

end CategoryFilter
