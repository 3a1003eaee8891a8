/-
What is asked of the local filter and the cloud services, and what they answer.
-/

import CategoryFilter.Json.Fields

namespace CategoryFilter

open Json (text? list? optional?)

/-- What a filter says about a domain. -/
inductive MatchStatus where
  | hit
  | noMatch
  /-- Any status that is not one of the other two. -/
  | unknown
deriving Repr, DecidableEq

/-- The answer of one filter about a domain. -/
structure FilterResult where
  uid : String
  /-- The pattern that matched, empty for the domain itself. -/
  item : String
  status : MatchStatus
deriving Repr, DecidableEq

/-- The answers of all filters that were asked. -/
structure FilterResponse where
  results : List FilterResult
deriving Repr, DecidableEq

/-- The question to the local filter: all filters if none is named. -/
structure FilterRequest where
  domain : String
  filters : List String
deriving Repr, DecidableEq

/-- The question which of some digests are in a hash set. -/
structure MembershipRequest where
  id : String
  domains : List String
deriving Repr, DecidableEq

/-- The digests found in a hash set; without them the answer is of no use. -/
structure MembershipResponse where
  domains : Option (List String)
deriving Repr, DecidableEq

/-- A record about a domain or pattern: its origin belongs to a category. -/
structure IntelRecord where
  origin : String
  category : String
deriving Repr, DecidableEq

/-- The records about a looked-up domain. -/
structure IntelResponse where
  results : List IntelRecord
deriving Repr, DecidableEq

/-! ### JSON forms -/

/-- The name of a status. -/
def MatchStatus.name : MatchStatus → String
  | .hit => "Match"
  | .noMatch => "NoMatch"
  | .unknown => "Unknown"

/-- The status with a name. -/
def MatchStatus.ofName (name : String) : MatchStatus :=
  if name = "Match" then .hit else if name = "NoMatch" then .noMatch else .unknown

/-- The status of a JSON form: its name, alone or as the name of a single null. -/
def MatchStatus.ofJson? : Json → Option MatchStatus
  | .text name => some (ofName name)
  | .object [(name, .null)] => some (ofName name)
  | _ => none

def FilterResult.toJson (r : FilterResult) : Json :=
  .object [("uid", .text r.uid), ("item", .text r.item), ("status", .text r.status.name)]

def FilterResult.ofJson? (j : Json) : Option FilterResult := do
  let fields ← Json.record? ["uid", "item", "status"] j
  return ⟨← fields.required "uid" text?, ← fields.optional "item" "" text?,
    ← fields.required "status" MatchStatus.ofJson?⟩

def FilterResponse.toJson (r : FilterResponse) : Json :=
  .object [("results", .array (r.results.map FilterResult.toJson))]

def FilterResponse.ofJson? (j : Json) : Option FilterResponse := do
  return ⟨← (← Json.record? ["results"] j).optional "results" [] (list? FilterResult.ofJson?)⟩

def FilterRequest.toJson (r : FilterRequest) : Json :=
  .object [("domain", .text r.domain), ("filters", .texts r.filters)]

def FilterRequest.ofJson? (j : Json) : Option FilterRequest := do
  let fields ← Json.record? ["domain", "filters"] j
  return ⟨← fields.required "domain" text?, ← fields.required "filters" (list? text?)⟩

def MembershipRequest.toJson (r : MembershipRequest) : Json :=
  .object [("id", .text r.id), ("domains", .texts r.domains)]

def MembershipRequest.ofJson? (j : Json) : Option MembershipRequest := do
  let fields ← Json.record? ["id", "domains"] j
  return ⟨← fields.required "id" text?, ← fields.required "domains" (list? text?)⟩

def MembershipResponse.toJson (r : MembershipResponse) : Json :=
  .object [("domains", (r.domains.map Json.texts).getD .null)]

def MembershipResponse.ofJson? (j : Json) : Option MembershipResponse := do
  return ⟨← (← Json.record? ["domains"] j).optional "domains" none (optional? (list? text?))⟩

def IntelRecord.toJson (r : IntelRecord) : Json :=
  .object [("origin", .text r.origin), ("category", .text r.category)]

def IntelRecord.ofJson? (j : Json) : Option IntelRecord := do
  let fields ← Json.record? ["origin", "category"] j
  return ⟨← fields.required "origin" text?, ← fields.required "category" text?⟩

def IntelResponse.toJson (r : IntelResponse) : Json :=
  .object [("results", .array (r.results.map IntelRecord.toJson))]

def IntelResponse.ofJson? (j : Json) : Option IntelResponse := do
  return ⟨← (← Json.record? ["results"] j).optional "results" [] (list? IntelRecord.ofJson?)⟩

end CategoryFilter
