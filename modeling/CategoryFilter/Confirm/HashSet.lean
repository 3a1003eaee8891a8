/-
Confirmation by a hash set of the cloud.

Only digests leave: domains are grouped by their digests, one request names the hash set and the digests,
and the groups whose digests come back are confirmed. Without domains nothing is asked.
-/

import CategoryFilter.Digest.Domain
import CategoryFilter.Services.Basic

namespace CategoryFilter.Confirm

/-- Put a domain to those with its digest. -/
def addToDigest (digest domain : String) : List (String × List String) → List (String × List String)
  | [] => [(digest, [domain])]
  | (other, domains) :: rest =>
    if other = digest then (other, domains ++ [domain]) :: rest
    else (other, domains) :: addToDigest digest domain rest

/-- Domains grouped by their digests, for a way to make them. -/
def groupByDigest (digest : String → String) (domains : List String) :
    List (String × List String) :=
  domains.foldl (fun groups domain => addToDigest (digest domain) domain groups) []

/-- The domains with a digest. -/
def domainsWith (groups : List (String × List String)) (key : String) : List String :=
  (groups.lookup key).getD []

/-- The request about some domains. -/
def membershipRequest (digest : String → String) (id : String) (domains : List String) :
    MembershipRequest :=
  ⟨id, (groupByDigest digest domains).map Prod.fst⟩

/-- The domains that an answer confirms. -/
def confirmedBy (digest : String → String) (domains present : List String) : List String :=
  let groups := groupByDigest digest domains
  (present.flatMap (domainsWith groups)).eraseDups

/-- The failure for an answer without domains. -/
def noDomains (id : String) : Failure :=
  .source ("membership response for " ++ id ++ " has no domains")

/-- Ask a hash set about domains: what was asked, and the confirmed ones. -/
def byHashSet (digest : String → String)
    (membership : MembershipRequest → Except Failure MembershipResponse) (id : String)
    (domains : List String) : List Question × Except Failure (List String) :=
  if domains.isEmpty then ([], .ok [])
  else
    let request := membershipRequest digest id domains
    let outcome := do
      match (← membership request).domains with
      | some present => return confirmedBy digest domains present
      | none => throw (noDomains id)
    ([.membership request], outcome)

end CategoryFilter.Confirm
