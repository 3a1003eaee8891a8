/-
**Names in ascending order.**

Two names are equal or one is smaller, and `sortNames` lists the names of a list in strictly ascending
order, so that none is repeated.
-/

import CategoryFilter.Text.Order

namespace CategoryFilter.Text

theorem lt_or_eq_or_gt (x y : String) : x < y ∨ x = y ∨ y < x := by
  by_cases less : x < y
  · exact Or.inl less
  · by_cases greater : y < x
    · exact Or.inr (Or.inr greater)
    · exact Or.inr (Or.inl (String.le_antisymm (String.not_lt.mp greater) (String.not_lt.mp less)))

theorem ascending_insertName {x : String} {ys : List String} (ascending : ys.Pairwise (· < ·)) :
    (insertName x ys).Pairwise (· < ·) := by
  induction ys with
  | nil => exact List.pairwise_singleton _ _
  | cons y ys ih =>
    obtain ⟨above, rest⟩ := List.pairwise_cons.mp ascending
    unfold insertName
    split
    · next less =>
      refine List.pairwise_cons.mpr ⟨fun z listed => ?_, ascending⟩
      rcases List.mem_cons.mp listed with rfl | later
      · exact less
      · exact String.lt_trans less (above z later)
    · next notLess =>
      split
      · exact ascending
      · next different =>
        refine List.pairwise_cons.mpr ⟨fun z listed => ?_, ih rest⟩
        rcases mem_insertName.mp listed with rfl | later
        · exact (lt_or_eq_or_gt z y).resolve_left notLess |>.resolve_left different
        · exact above z later

theorem ascending_sortNames (xs : List String) : (sortNames xs).Pairwise (· < ·) := by
  induction xs with
  | nil => exact List.Pairwise.nil
  | cons x xs ih => exact ascending_insertName ih

theorem nodup_sortNames (xs : List String) : (sortNames xs).Nodup := by
  refine (ascending_sortNames xs).imp fun less same => ?_
  rw [same] at less
  exact String.lt_irrefl _ less

end CategoryFilter.Text
