/-
Confirmation by the intel lookup.

A record covers a key if its origin is the key or, taken as a pattern or as a parent domain, covers the
key's base. Of the records that cover a key the most specific one decides, the last of several.
-/

import CategoryFilter.Domain.Pattern
import CategoryFilter.Services.Message

namespace CategoryFilter.Confirm

/-- Whether a domain ends with a dot and a given name. -/
def isBelow (domain name : String) : Bool :=
  ('.' :: name.toList).isSuffixOf domain.toList

/-- Whether a record issued for `origin` applies to a key. -/
def originCovers (origin key : String) : Bool :=
  if origin = key then true
  else
    let target := Domain.base key
    if Domain.isWildcard origin then Domain.covered target origin
    else target == origin || isBelow target origin

/-- How specific a record is: the size of its base domain. -/
def specificity (record : IntelRecord) : Nat :=
  (Domain.base record.origin).utf8ByteSize

/-- The most specific of some records, the last of several. -/
def mostSpecific? : List IntelRecord → Option IntelRecord
  | [] => none
  | record :: rest =>
    match mostSpecific? rest with
    | some other => some (if specificity other < specificity record then record else other)
    | none => some record

/-- Whether some records put a key into one of the accepted categories. -/
def resolves (records : List IntelRecord) (key : String) (accepted : List String) : Bool :=
  match mostSpecific? (records.filter fun record => originCovers record.origin key) with
  | some record => accepted.contains record.category
  | none => false

end CategoryFilter.Confirm
