/-
Sorted sets under keys.

`Sets` holds the sets that have members; a key without a set has the empty one. Each operation here
concerns one key, and `get_update_other` says that it leaves all others as they are.
-/

import CategoryFilter.SortedSet.Basic

namespace CategoryFilter

/-- Sorted sets by key. -/
structure Sets where
  keyed : List (String × SortedSet)
deriving Repr, DecidableEq

namespace Sets

/-- No sets at all. -/
def empty : Sets := ⟨[]⟩

/-- The set under a key. -/
def get (s : Sets) (key : String) : SortedSet :=
  (s.keyed.lookup key).getD .empty

/-- Put a set in place of the first one under a key, or at the end. -/
def put (key : String) (set : SortedSet) : List (String × SortedSet) → List (String × SortedSet)
  | [] => [(key, set)]
  | (other, held) :: rest =>
    if other = key then (key, set) :: rest else (other, held) :: put key set rest

/-- The sets with another set under a key. -/
def update (s : Sets) (key : String) (set : SortedSet) : Sets :=
  ⟨put key set s.keyed⟩

theorem lookup_put (key other : String) (set : SortedSet) (keyed : List (String × SortedSet)) :
    (put key set keyed).lookup other = if other = key then some set else keyed.lookup other := by
  induction keyed with
  | nil =>
    by_cases same : other = key
    · simp [put, same]
    · have different : (other == key) = false := beq_eq_false_iff_ne.mpr same
      simp [put, List.lookup_cons, same, different]
  | cons first rest ih =>
    obtain ⟨name, held⟩ := first
    by_cases same : name = key
    · subst same
      by_cases asked : other = name
      · simp [put, asked]
      · have different : (other == name) = false := beq_eq_false_iff_ne.mpr asked
        simp [put, List.lookup_cons, asked, different]
    · by_cases asked : other = name
      · subst asked
        simp [put, same]
      · have different : (other == name) = false := beq_eq_false_iff_ne.mpr asked
        simp only [put, same, if_false, List.lookup_cons, different, ih]

@[simp] theorem get_update_self (s : Sets) (key : String) (set : SortedSet) :
    (s.update key set).get key = set := by
  simp [get, update, lookup_put]

theorem get_update_other (s : Sets) {key other : String} (set : SortedSet) (different : other ≠ key) :
    (s.update key set).get other = s.get other := by
  simp [get, update, lookup_put, different]

end Sets

end CategoryFilter
