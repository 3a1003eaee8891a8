/-
Configured categories.

A registry holds one definition for each id. A category without a definition is ignored and not active;
a bloom-filter variant also has the exclusions of its base category.
-/

import CategoryFilter.Category.Name
import CategoryFilter.Category.Strategy
import CategoryFilter.Exclusion
import CategoryFilter.Text.Order

namespace CategoryFilter

/-- A configured category. -/
structure Definition where
  id : String
  strategy : Strategy
  style : Style
  excludedDomains : List String
  active : Bool
deriving Repr, DecidableEq

/-- An active category confirmed by the hash set named after it, without exclusions. -/
def Definition.new (id : String) : Definition :=
  ⟨id, .standard, .standard, [], true⟩

/-- The configured categories, one definition for each id. -/
structure Registry where
  definitions : List Definition
deriving Repr, DecidableEq

namespace Registry

/-- The definition of a category. -/
def definition? (r : Registry) (category : String) : Option Definition :=
  r.definitions.find? fun d => d.id = category

/-- Add a definition, in place of an earlier one of that id. -/
def upsert (r : Registry) (d : Definition) : Registry :=
  ⟨r.definitions.filter (fun other => other.id != d.id) ++ [d]⟩

/-- The registry of a list of definitions; of two with one id the last counts. -/
def ofList (definitions : List Definition) : Registry :=
  definitions.foldl upsert ⟨[]⟩

/-- Change the definition of a category, if it has one. -/
def modify (r : Registry) (category : String) (change : Definition → Definition) : Registry :=
  ⟨r.definitions.map fun d => if d.id = category then { change d with id := d.id } else d⟩

/-- Set whether a category is active; false for an unknown one. -/
def setActive (r : Registry) (category : String) (active : Bool) : Registry × Bool :=
  (r.modify category ({ · with active }), (r.definition? category).isSome)

/-- Add an exclusion; false for an unknown category or a repeated entry. -/
def addExclusion (r : Registry) (category domain : String) : Registry × Bool :=
  match r.definition? category with
  | some d =>
    if d.excludedDomains.contains domain then (r, false)
    else (r.modify category fun d => { d with excludedDomains := d.excludedDomains ++ [domain] }, true)
  | none => (r, false)

/-- Remove an exclusion, and say whether it was there. -/
def removeExclusion (r : Registry) (category domain : String) : Registry × Bool :=
  match r.definition? category with
  | some d =>
    (r.modify category fun d =>
        { d with excludedDomains := d.excludedDomains.filter (· != domain) },
      d.excludedDomains.contains domain)
  | none => (r, false)

/-- The strategy of a category. -/
def strategy (r : Registry) (category : String) : Strategy :=
  ((r.definition? category).map (·.strategy)).getD .ignore

/-- The style of a category. -/
def style (r : Registry) (category : String) : Style :=
  ((r.definition? category).map (·.style)).getD .standard

/-- Whether a category is active. -/
def isActive (r : Registry) (category : String) : Bool :=
  ((r.definition? category).map (·.active)).getD false

/-- The active categories, ascending. -/
def activeCategories (r : Registry) : List String :=
  Text.sortNames ((r.definitions.filter (·.active)).map (·.id))

/-- The entries excluded from a category, its base category's among them, ascending. -/
def excludedDomains (r : Registry) (category : String) : List String :=
  let own (id : String) := ((r.definition? id).map (·.excludedDomains)).getD []
  Text.sortNames (own category ++ own (Category.base category))

/-- The exclusion list of a category. -/
def exclusions (r : Registry) (category : String) : Exclusions :=
  .ofList (r.excludedDomains category)

end Registry

end CategoryFilter
