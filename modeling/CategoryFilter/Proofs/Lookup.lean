/-
**Looking up a key in a list of pairs.**

The first pair of a key counts, so that the pairs of other keys before it make no difference
(`lookup_cons_other`). A key is found if it is listed (`lookup_eq_none_iff`); where each key is listed once,
what is found is what is listed (`lookup_eq_some_iff`), in whatever order (`lookup_eq_of_perm`). A key that
was found is found with its new value (`lookup_map_value`).
-/

import Mathlib.Data.List.Nodup

namespace CategoryFilter

variable {α β : Type} [BEq α] [LawfulBEq α] {key other : α} {value : β} {xs ys : List (α × β)}

theorem lookup_cons_other (different : other ≠ key) :
    ((key, value) :: xs).lookup other = xs.lookup other := by
  rw [List.lookup_cons, beq_eq_false_iff_ne.mpr different]

theorem lookup_eq_none_iff : xs.lookup key = none ↔ key ∉ xs.map Prod.fst := by
  rw [List.lookup_eq_none_iff, List.mem_map]
  constructor
  · rintro apart ⟨p, listed, rfl⟩
    exact bne_iff_ne.mp (apart p listed) rfl
  · exact fun absent p listed => bne_iff_ne.mpr fun same => absent ⟨p, listed, same.symm⟩

theorem lookup_eq_some_iff (distinct : (xs.map Prod.fst).Nodup) :
    xs.lookup key = some value ↔ (key, value) ∈ xs := by
  induction xs with
  | nil => exact iff_of_false (Option.some_ne_none _).symm List.not_mem_nil
  | cons first rest ih =>
    obtain ⟨other, found⟩ := first
    obtain ⟨absent, distinct⟩ := List.nodup_cons.mp distinct
    by_cases same : key = other
    · subst same
      rw [List.lookup_cons_self, Option.some.injEq, List.mem_cons]
      constructor
      · rintro rfl
        exact Or.inl rfl
      · rintro (here | later)
        · exact congrArg Prod.snd here.symm
        · exact absurd (List.mem_map_of_mem later) absent
    · rw [lookup_cons_other same, List.mem_cons, or_iff_right, ih distinct]
      exact fun here => same (congrArg Prod.fst here)

theorem lookup_eq_of_perm (distinct : (xs.map Prod.fst).Nodup) (order : xs.Perm ys) :
    xs.lookup key = ys.lookup key := by
  have distinct' : (ys.map Prod.fst).Nodup := (order.map Prod.fst).nodup_iff.mp distinct
  refine Option.ext fun value => ?_
  rw [lookup_eq_some_iff distinct, lookup_eq_some_iff distinct', order.mem_iff]

/-- Pairs that are left out because of their keys are not found, and the others are found as before. -/
theorem lookup_filter (q : α → Bool) :
    (xs.filter fun p => q p.1).lookup key = if q key then xs.lookup key else none := by
  induction xs with
  | nil => exact (ite_self none).symm
  | cons first rest ih =>
    obtain ⟨name, found⟩ := first
    by_cases kept : q name = true
    · rw [List.filter_cons_of_pos (by exact kept)]
      by_cases same : key = name
      · rw [same, List.lookup_cons_self, List.lookup_cons_self, if_pos kept]
      · rw [lookup_cons_other same, lookup_cons_other same, ih]
    · rw [List.filter_cons_of_neg (by exact kept), ih]
      by_cases same : key = name
      · rw [same, if_neg kept, if_neg kept]
      · rw [lookup_cons_other same]

/-- All pairs of a key get a value. -/
theorem lookup_map_value {xs : List (Nat × β)} {key : Nat} (known : (xs.lookup key).isSome) (value : β) :
    (xs.map fun p => if p.1 = key then (p.1, value) else p).lookup key = some value := by
  induction xs with
  | nil => cases known
  | cons first rest ih =>
    obtain ⟨other, own⟩ := first
    rw [List.map_cons]
    by_cases same : other = key
    · subst same
      rw [if_pos rfl]
      exact List.lookup_cons_self
    · rw [lookup_cons_other (Ne.symm same)] at known
      rw [if_neg same, lookup_cons_other (Ne.symm same)]
      exact ih known

end CategoryFilter
