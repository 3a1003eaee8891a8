/-
Names in their fixed order.

Texts are ordered by their UTF-8 bytes, which is the order of their code points. `sortNames` lists the
names that occur in a list, each once, ascending; `mem_sortNames` says that no name is lost or added.
-/

namespace CategoryFilter.Text

/-- Put a name in its place in an ascending list, unless it is there. -/
def insertName (x : String) : List String → List String
  | [] => [x]
  | y :: ys => if x < y then x :: y :: ys else if x = y then y :: ys else y :: insertName x ys

/-- The names of a list, each once, ascending. -/
def sortNames (xs : List String) : List String :=
  xs.foldr insertName []

theorem mem_insertName {x y : String} {ys : List String} :
    x ∈ insertName y ys ↔ x = y ∨ x ∈ ys := by
  induction ys with
  | nil => simp [insertName]
  | cons z zs ih =>
    unfold insertName
    split
    · simp
    · split
      · next same => subst same; simp
      · simp only [List.mem_cons, ih]
        exact or_left_comm

@[simp] theorem mem_sortNames {x : String} {xs : List String} : x ∈ sortNames xs ↔ x ∈ xs := by
  induction xs with
  | nil => simp [sortNames]
  | cons y ys ih => rw [List.mem_cons, ← ih]; exact mem_insertName

end CategoryFilter.Text
