/-
Exclusion lists: the names and patterns of a category that are never a hit.

An entry excludes itself, and a wildcard entry everything it covers. Entries keep the order of their
insertion; a repeated entry is refused.
-/

import CategoryFilter.Domain.Pattern

namespace CategoryFilter

/-- An exclusion list. The wildcards among the entries are also kept apart, for the covering scan. -/
structure Exclusions where
  entries : List String
  wildcards : List String
deriving Repr, DecidableEq

namespace Exclusions

/-- The list without entries. -/
def empty : Exclusions := ⟨[], []⟩

/-- The entries with one more, unless it is among them. -/
def withEntry (x : Exclusions) (entry : String) : List String :=
  if x.entries.contains entry then x.entries else x.entries ++ [entry]

/-- Add an entry, and say whether it was new. A wildcard is looked for among the wildcards only. -/
def insert (x : Exclusions) (entry : String) : Exclusions × Bool :=
  if Domain.isWildcard entry then
    if x.wildcards.contains entry then (x, false)
    else (⟨x.withEntry entry, x.wildcards ++ [entry]⟩, true)
  else (⟨x.withEntry entry, x.wildcards⟩, !x.entries.contains entry)

/-- The list with the given entries. -/
def ofList (entries : List String) : Exclusions :=
  entries.foldl (fun x entry => (x.insert entry).1) empty

/-- Whether a domain or pattern is excluded. -/
def covers (x : Exclusions) (domain : String) : Bool :=
  x.entries.contains domain || x.wildcards.any (Domain.covered domain)

/-- Whether any of several names is excluded. -/
def coversAny (x : Exclusions) (domains : List String) : Bool :=
  domains.any x.covers

/-- The number of entries. -/
def size (x : Exclusions) : Nat :=
  x.entries.length

/-- Whether there are no entries. -/
def isEmpty (x : Exclusions) : Bool :=
  x.entries.isEmpty

end Exclusions

end CategoryFilter
