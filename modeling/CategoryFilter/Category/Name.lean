/-
Names made from a category's id: its filter, the keys of its sets and its base category.
-/

namespace CategoryFilter.Category

/-- The filter of a category. -/
def filterUid (category : String) : String :=
  "category:" ++ category

/-- The category of a filter, if the filter is a category's. -/
def ofFilterUid? (uid : String) : Option String :=
  match "category:".toList.isPrefixOf? uid.toList with
  | some (c :: rest) => some (String.ofList (c :: rest))
  | _ => none

/-- The category under a bloom-filter variant: the id without `_bf`, unless nothing else is left. -/
def base (category : String) : String :=
  match "_bf".toList.isSuffixOf? category.toList with
  | some (c :: rest) => String.ofList (c :: rest)
  | _ => category

/-- The key of the hit set. -/
def hitKey (category : String) : String :=
  "category:" ++ category ++ ":hit:domain"

/-- The key of the passthrough set. -/
def passthroughKey (category : String) : String :=
  "category:" ++ category ++ ":passthrough:domain"

/-- The key of the set of patterns fed back into enforcement. -/
def dynamicKey (category : String) : String :=
  "dynamicCategoryDomain:" ++ category

/-- The keys of a category's two sets. -/
structure SetKeys where
  hit : String
  passthrough : String
deriving Repr, DecidableEq

/-- The keys under which a category keeps its sets. -/
def setKeys (category : String) : SetKeys :=
  ⟨hitKey category, passthroughKey category⟩

end CategoryFilter.Category
