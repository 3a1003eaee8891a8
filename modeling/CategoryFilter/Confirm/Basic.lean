/-
Confirming keys with the source of a category.

A confirmation says of each key that it is confirmed, that the source failed on it, or neither, which
refutes it. Only the intel lookup fails on single keys; the other sources answer for all keys or fail
as a whole. Without keys no source is asked.
-/

import CategoryFilter.Category.Name
import CategoryFilter.Confirm.HashSet
import CategoryFilter.Confirm.Intel
import CategoryFilter.Confirm.ListFile
import CategoryFilter.Confirm.Source

namespace CategoryFilter

/-- What a source says about some keys. -/
structure Confirmation where
  confirmed : List String
  /-- Keys without an answer. -/
  failed : List String
deriving Repr, DecidableEq

namespace Confirmation

/-- The confirmation of no keys. -/
def empty : Confirmation := ⟨[], []⟩

/-- A confirmation without failures. -/
def ofConfirmed (keys : List String) : Confirmation := ⟨keys, []⟩

end Confirmation

namespace Confirm

/-- The categories that confirm a key of a category by the intel lookup. -/
def accepted (category : String) (style : Style) : List String :=
  category :: Category.base category :: style.aliases

/-- One key's part of a confirmation by the intel lookup, which answers about the base of each key. -/
def intelStep (intel : (key domain : String) → Except Failure IntelResponse) (accepted : List String)
    (key : String) (rest : Confirmation) : Confirmation :=
  match intel key (Domain.base key) with
  | .ok response =>
    if resolves response.results key accepted then { rest with confirmed := key :: rest.confirmed }
    else rest
  | .error _ => { rest with failed := key :: rest.failed }

/-- Look each key up. -/
def byIntel (services : Services) (category : String) (style : Style) (keys : List String) :
    List Question × Confirmation :=
  (keys.map fun key => .intel (Domain.base key),
    keys.foldr (intelStep (services.intel category) (accepted category style)) .empty)

/-- Confirm keys of a category: what was asked, and the confirmation. -/
def confirm (services : Services) (category : String) (source : Source) (style : Style)
    (keys : List String) : List Question × Except Failure Confirmation :=
  if keys.isEmpty then ([], .ok .empty)
  else
    match source with
    | .trusted => ([], .ok (.ofConfirmed keys))
    | .file => ([], (byListFile services.listFile category keys).map .ofConfirmed)
    | .cloud =>
      let (asked, outcome) :=
        byHashSet Domain.digest (services.membership category) (style.hashSetId category) keys
      (asked, outcome.map .ofConfirmed)
    | .intel =>
      let (asked, outcome) := byIntel services category style keys
      (asked, .ok outcome)

end Confirm

end CategoryFilter
