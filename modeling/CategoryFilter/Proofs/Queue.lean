/-
**The groups of a confirmation.**

The order of candidates is total (`Candidate.before_or_before`), so the sorted batch lists each category
in one piece. `groupByCategory` cuts it there:

* `grouped_groupByCategory`: the categories of the groups ascend, and each group holds exactly the
  candidates of its category, in their order.
* `exists_group`: so each category of the batch has one group.
-/

import CategoryFilter.Proofs.Order
import CategoryFilter.Queue
import Mathlib.Data.List.Nodup

namespace CategoryFilter

namespace Candidate

variable {a b c : Candidate}

/-- The order compares the categories, then the patterns, then the origins. -/
theorem before_iff : a.before b = true ↔
    a.category < b.category ∨ a.category = b.category ∧
      (a.pattern < b.pattern ∨ a.pattern = b.pattern ∧ a.origin < b.origin) := by
  have irrefl : ∀ x : String, ¬ x < x := String.lt_irrefl
  unfold before
  by_cases category : a.category = b.category
  · rw [if_neg (not_not_intro category), category]
    by_cases pattern : a.pattern = b.pattern
    · rw [if_neg (not_not_intro pattern), pattern]
      simp only [decide_eq_true_eq, irrefl, false_or, true_and]
    · rw [if_pos pattern]
      simp only [decide_eq_true_eq, irrefl, pattern, false_or, false_and, or_false, true_and]
  · rw [if_pos category]
    simp only [decide_eq_true_eq, category, false_and, or_false]

theorem before_irrefl (a : Candidate) : ¬ a.before a = true := by
  rw [before_iff]
  rintro (less | ⟨-, less | ⟨-, less⟩⟩) <;> exact String.lt_irrefl _ less

theorem before_trans (first : a.before b = true) (second : b.before c = true) :
    a.before c = true := by
  rw [before_iff] at first second ⊢
  rcases first with less | ⟨same, first⟩ <;> rcases second with less' | ⟨same', second⟩
  · exact Or.inl (String.lt_trans less less')
  · exact Or.inl (same' ▸ less)
  · exact Or.inl (same ▸ less')
  · refine Or.inr ⟨same.trans same', ?_⟩
    rcases first with less | ⟨same, less⟩ <;> rcases second with less' | ⟨same', less'⟩
    · exact Or.inl (String.lt_trans less less')
    · exact Or.inl (same' ▸ less)
    · exact Or.inl (same ▸ less')
    · exact Or.inr ⟨same.trans same', String.lt_trans less less'⟩

/-- Of two different candidates one is before the other. -/
theorem before_or_before (different : a ≠ b) : a.before b = true ∨ b.before a = true := by
  rw [before_iff, before_iff]
  rcases Text.lt_or_eq_or_gt a.category b.category with less | category | less
  · exact Or.inl (Or.inl less)
  · rcases Text.lt_or_eq_or_gt a.pattern b.pattern with less | pattern | less
    · exact Or.inl (Or.inr ⟨category, Or.inl less⟩)
    · rcases Text.lt_or_eq_or_gt a.origin b.origin with less | origin | less
      · exact Or.inl (Or.inr ⟨category, Or.inr ⟨pattern, less⟩⟩)
      · obtain ⟨_, _, _⟩ := a
        obtain ⟨_, _, _⟩ := b
        cases category
        cases pattern
        cases origin
        exact absurd rfl different
      · exact Or.inr (Or.inr ⟨category.symm, Or.inr ⟨pattern.symm, less⟩⟩)
    · exact Or.inr (Or.inr ⟨category.symm, Or.inl less⟩)
  · exact Or.inr (Or.inl less)

theorem not_before_trans (first : ¬ b.before a = true) (second : ¬ c.before b = true) :
    ¬ c.before a = true := by
  intro less
  by_cases same : a = b
  · exact second (same ▸ less)
  · rcases before_or_before same with before | after
    · exact second (before_trans less before)
    · exact first after

end Candidate

/-! ### Sorted batches -/

/-- A batch in the order of its candidates. -/
def Ordered (batch : List Pending) : Prop :=
  batch.Pairwise fun p q => ¬ q.1.before p.1 = true

/-- What the sort compares by. -/
def notAfter (p q : Pending) : Bool :=
  !q.1.before p.1

theorem notAfter_iff {p q : Pending} : notAfter p q = true ↔ ¬ q.1.before p.1 = true := by
  rw [notAfter, Bool.not_eq_true', Bool.eq_false_iff]

theorem ordered_sortPending (batch : List Pending) : Ordered (sortPending batch) := by
  have transitive : ∀ p q r : Pending, notAfter p q → notAfter q r → notAfter p r := by
    intro p q r first second
    rw [notAfter_iff] at first second ⊢
    exact Candidate.not_before_trans first second
  have total : ∀ p q : Pending, (notAfter p q || notAfter q p) = true := by
    intro p q
    rw [Bool.or_eq_true, notAfter_iff, notAfter_iff, ← not_and_or]
    rintro ⟨after, before⟩
    exact Candidate.before_irrefl _ (Candidate.before_trans after before)
  exact (List.pairwise_mergeSort transitive total batch).imp notAfter_iff.mp

theorem sortPending_of_sorted {batch : List Pending}
    (sorted : batch.Pairwise fun p q => notAfter p q = true) : sortPending batch = batch :=
  List.mergeSort_of_pairwise sorted

theorem mem_sortPending {batch : List Pending} {p : Pending} : p ∈ sortPending batch ↔ p ∈ batch :=
  List.mem_mergeSort

theorem length_sortPending (batch : List Pending) : (sortPending batch).length = batch.length :=
  List.length_mergeSort _

theorem Ordered.category_le {batch : List Pending} {p q : Pending} (ordered : Ordered (p :: batch))
    (listed : q ∈ batch) : ¬ q.1.category < p.1.category := fun less =>
  (List.pairwise_cons.mp ordered).1 q listed (Candidate.before_iff.mpr (Or.inl less))

/-! ### Groups -/

/-- The candidates of a category in a batch. -/
def ofCategory (batch : List Pending) (category : String) : List Pending :=
  batch.filter fun p => p.1.category = category

/-- Put a candidate before the groups of later ones. -/
def addToGroups (p : Pending) (groups : List (String × List Pending)) :
    List (String × List Pending) :=
  match groups with
  | (category, items) :: rest =>
    if p.1.category = category then (category, p :: items) :: rest
    else (p.1.category, [p]) :: (category, items) :: rest
  | [] => [(p.1.category, [p])]

theorem groupByCategory_eq (batch : List Pending) :
    groupByCategory batch = (sortPending batch).foldr addToGroups [] := rfl

theorem groupByCategory_of_sorted {batch : List Pending}
    (sorted : batch.Pairwise fun p q => notAfter p q = true) :
    groupByCategory batch = batch.foldr addToGroups [] := by
  rw [groupByCategory_eq, sortPending_of_sorted sorted]

/-- The groups of a sorted batch: their categories ascend and are those of the batch, and each holds the
candidates of its category. -/
structure Grouped (batch : List Pending) (groups : List (String × List Pending)) : Prop where
  ascending : (groups.map Prod.fst).Pairwise (· < ·)
  listed : ∀ p ∈ batch, p.1.category ∈ groups.map Prod.fst
  exact : ∀ g ∈ groups, g.2 = ofCategory batch g.1 ∧ g.2 ≠ []

theorem Grouped.category_mem {batch : List Pending} {groups : List (String × List Pending)}
    (grouped : Grouped batch groups) {category : String} (named : category ∈ groups.map Prod.fst) :
    ∃ p ∈ batch, p.1.category = category := by
  obtain ⟨g, there, rfl⟩ := List.mem_map.mp named
  obtain ⟨same, some⟩ := grouped.exact g there
  obtain ⟨p, first⟩ := List.exists_mem_of_ne_nil _ some
  rw [same] at first
  obtain ⟨held, own⟩ := List.mem_filter.mp first
  exact ⟨p, held, by simpa using own⟩

theorem ofCategory_cons_same {batch : List Pending} {p : Pending} {category : String}
    (same : p.1.category = category) :
    ofCategory (p :: batch) category = p :: ofCategory batch category :=
  List.filter_cons_of_pos (by simpa using same)

theorem ofCategory_cons_other {batch : List Pending} {p : Pending} {category : String}
    (other : p.1.category ≠ category) : ofCategory (p :: batch) category = ofCategory batch category :=
  List.filter_cons_of_neg (by simpa using other)

/-- A candidate joins the first group, if that is its category's. -/
theorem Grouped.join {batch : List Pending} {items : List Pending} {category : String}
    {rest : List (String × List Pending)} {p : Pending} (same : p.1.category = category)
    (grouped : Grouped batch ((category, items) :: rest)) :
    Grouped (p :: batch) ((category, p :: items) :: rest) := by
  have later : ∀ other ∈ rest.map Prod.fst, category < other :=
    (List.pairwise_cons.mp grouped.ascending).1
  refine ⟨grouped.ascending, fun q held => ?_, fun g there => ?_⟩
  · rcases List.mem_cons.mp held with rfl | held
    · exact List.mem_cons.mpr (Or.inl same)
    · exact grouped.listed q held
  · rcases List.mem_cons.mp there with rfl | there
    · refine ⟨?_, List.cons_ne_nil _ _⟩
      rw [ofCategory_cons_same same, ← (grouped.exact _ List.mem_cons_self).1]
    · obtain ⟨exact, some⟩ := grouped.exact g (List.mem_cons_of_mem _ there)
      refine ⟨?_, some⟩
      have other : p.1.category ≠ g.1 := by
        intro equal
        have less := later g.1 (List.mem_map_of_mem there)
        rw [← equal, same] at less
        exact String.lt_irrefl _ less
      rw [ofCategory_cons_other other, exact]

/-- A candidate of a smaller category makes a group of its own. -/
theorem Grouped.precede {batch : List Pending} {groups : List (String × List Pending)} {p : Pending}
    (first : ∀ category ∈ groups.map Prod.fst, p.1.category < category)
    (grouped : Grouped batch groups) : Grouped (p :: batch) ((p.1.category, [p]) :: groups) := by
  have alone : ofCategory batch p.1.category = [] := by
    refine List.filter_eq_nil_iff.mpr fun q held own => ?_
    have less := first q.1.category (grouped.listed q held)
    rw [of_decide_eq_true own] at less
    exact String.lt_irrefl _ less
  refine ⟨List.pairwise_cons.mpr ⟨first, grouped.ascending⟩, fun q held => ?_, fun g there => ?_⟩
  · rcases List.mem_cons.mp held with rfl | held
    · exact List.mem_cons_self
    · exact List.mem_cons_of_mem _ (grouped.listed q held)
  · rcases List.mem_cons.mp there with rfl | there
    · refine ⟨?_, List.cons_ne_nil _ _⟩
      rw [ofCategory_cons_same rfl, alone]
    · obtain ⟨exact, some⟩ := grouped.exact g there
      refine ⟨?_, some⟩
      have other : p.1.category ≠ g.1 := by
        intro equal
        have less := first g.1 (List.mem_map_of_mem there)
        rw [equal] at less
        exact String.lt_irrefl _ less
      rw [ofCategory_cons_other other, exact]

theorem Grouped.add {batch : List Pending} {groups : List (String × List Pending)} {p : Pending}
    (ordered : Ordered (p :: batch)) (grouped : Grouped batch groups) :
    Grouped (p :: batch) (addToGroups p groups) := by
  have above : ∀ category ∈ groups.map Prod.fst, ¬ category < p.1.category := by
    intro category named
    obtain ⟨q, held, rfl⟩ := grouped.category_mem named
    exact ordered.category_le held
  cases groups with
  | nil => exact grouped.precede fun _ named => absurd named List.not_mem_nil
  | cons group rest =>
    obtain ⟨category, items⟩ := group
    show Grouped _ (if p.1.category = category then _ else _)
    split
    · next same => exact grouped.join same
    · next other =>
      have less : p.1.category < category := by
        rcases Text.lt_or_eq_or_gt p.1.category category with less | equal | greater
        · exact less
        · exact absurd equal other
        · exact absurd greater (above category List.mem_cons_self)
      refine grouped.precede fun named there => ?_
      rcases List.mem_cons.mp there with rfl | later
      · exact less
      · exact String.lt_trans less ((List.pairwise_cons.mp grouped.ascending).1 named later)

theorem grouped_foldr {batch : List Pending} (ordered : Ordered batch) :
    Grouped batch (batch.foldr addToGroups []) := by
  induction batch with
  | nil =>
    exact ⟨List.Pairwise.nil, fun _ held => absurd held List.not_mem_nil,
      fun _ there => absurd there List.not_mem_nil⟩
  | cons p rest ih => exact (ih (List.pairwise_cons.mp ordered).2).add ordered

/-- **The groups of a batch**, sorted. -/
theorem grouped_groupByCategory (batch : List Pending) :
    Grouped (sortPending batch) (groupByCategory batch) :=
  grouped_foldr (ordered_sortPending batch)

theorem nodup_groupByCategory (batch : List Pending) :
    ((groupByCategory batch).map Prod.fst).Nodup :=
  (grouped_groupByCategory batch).ascending.imp fun less same => by
    rw [same] at less
    exact String.lt_irrefl _ less

/-- The group of a category that a batch has candidates of, among groups of other categories. -/
theorem exists_group {batch : List Pending} {p : Pending} (held : p ∈ batch) :
    ∃ before after, groupByCategory batch =
        before ++ (p.1.category, ofCategory (sortPending batch) p.1.category) :: after ∧
      p.1.category ∉ before.map Prod.fst ∧ p.1.category ∉ after.map Prod.fst := by
  have grouped := grouped_groupByCategory batch
  obtain ⟨⟨category, items⟩, there, same⟩ :=
    List.mem_map.mp (grouped.listed p (mem_sortPending.mpr held))
  obtain ⟨before, after, split⟩ := List.append_of_mem there
  have distinct := nodup_groupByCategory batch
  have exact := (grouped.exact _ there).1
  dsimp only at same exact
  subst same
  rw [split, List.map_append, List.map_cons, List.nodup_append, List.nodup_cons] at distinct
  refine ⟨before, after, by rw [split, exact], fun earlier => ?_, distinct.2.1.1⟩
  exact distinct.2.2 _ earlier _ List.mem_cons_self rfl

end CategoryFilter
