/-
**Scores as a finite map.**

A set is meant as a finite map from its members to their scores. The `ranking` of a map lists it by score
and, at equal scores, by the bytes of the members:

* `mem_ranking`, `nodup_members_ranking`, `ascending_ranking`: it lists every member once, in strictly
  ascending order.
* `Shows.entries_eq`: a sorted set that finds the scores of a map lists its entries in that order, as
  there is only one such list.
* `lookup_withoutRanks`: a removal of ranks takes the members at these ranks out of the map.
-/

import CategoryFilter.Proofs.Bytes
import CategoryFilter.Proofs.Ranks
import Mathlib.Data.Finmap
import Mathlib.Data.Multiset.Sort

namespace CategoryFilter

/-! ### The rank order -/

namespace Entry

/-- The order by score and, at equal scores, by the bytes of the members. -/
def ByteBefore (a b : Entry) : Prop :=
  a.score < b.score ∨ a.score = b.score ∧ Text.bytes a.member < Text.bytes b.member

theorem byteBefore_iff {a b : Entry} : a.ByteBefore b ↔ a.Before b := by
  unfold ByteBefore Before
  rw [Text.lt_iff_bytes]

instance (a b : Entry) : Decidable (a.ByteBefore b) :=
  inferInstanceAs (Decidable (_ ∨ _))

theorem before_or_eq_or_before (a b : Entry) : a.Before b ∨ a = b ∨ b.Before a := by
  obtain ⟨name, score⟩ := a
  obtain ⟨other, bound⟩ := b
  by_cases names : name = other
  · subst names
    by_cases less : score < bound
    · exact Or.inl (Or.inl less)
    · by_cases greater : bound < score
      · exact Or.inr (Or.inr (Or.inl greater))
      · have same : score = bound :=
          Int64.le_antisymm (Int64.not_lt.mp greater) (Int64.not_lt.mp less)
        exact Or.inr (Or.inl (by rw [same]))
  · rcases before_or_before (a := ⟨name, score⟩) (b := ⟨other, bound⟩) names with before | after
    · exact Or.inl before
    · exact Or.inr (Or.inr after)

/-- The order in which a map is listed, with equal entries allowed. -/
def NotAfter (a b : Entry) : Prop :=
  a = b ∨ a.ByteBefore b

instance (a b : Entry) : Decidable (a.NotAfter b) :=
  inferInstanceAs (Decidable (_ ∨ _))

theorem notAfter_iff {a b : Entry} : a.NotAfter b ↔ a = b ∨ a.Before b :=
  or_congr_right byteBefore_iff

instance : IsTrans Entry NotAfter where
  trans a b c first second := by
    rw [notAfter_iff] at first second ⊢
    rcases first with rfl | first
    · exact second
    · rcases second with rfl | second
      · exact Or.inr first
      · exact Or.inr (first.trans second)

instance : Std.Antisymm NotAfter where
  antisymm a b first second := by
    rw [notAfter_iff] at first second
    rcases first with same | first
    · exact same
    · rcases second with same | second
      · exact same.symm
      · exact absurd (first.trans second) (Before.irrefl a)

instance : Std.Total NotAfter where
  total a b := by
    rw [notAfter_iff, notAfter_iff]
    rcases before_or_eq_or_before a b with before | same | after
    · exact Or.inl (Or.inr before)
    · exact Or.inl (Or.inl same)
    · exact Or.inr (Or.inr after)

end Entry

/-! ### The ranking of a map -/

/-- Members with their scores. -/
abbrev Scores := Finmap fun _ : String => Score

namespace Scores

variable {f : Scores} {member name : String} {score : Score}

/-- The entries of a map, in rank order. -/
def ranking (f : Scores) : List Entry :=
  (f.entries.map fun e => (⟨e.1, e.2⟩ : Entry)).sort Entry.NotAfter

theorem mem_ranking {e : Entry} : e ∈ f.ranking ↔ f.lookup e.member = some e.score := by
  unfold ranking
  rw [Multiset.mem_sort, Multiset.mem_map, Finmap.lookup_eq_some_iff]
  constructor
  · rintro ⟨pair, listed, rfl⟩
    exact listed
  · exact fun listed => ⟨⟨e.member, e.score⟩, listed, rfl⟩

theorem nodup_members_ranking (f : Scores) : (f.ranking.map Entry.member).Nodup := by
  rw [← Multiset.coe_nodup, ← Multiset.map_coe, ranking, Multiset.sort_eq, Multiset.map_map]
  exact Multiset.nodup_keys.mpr f.nodupKeys

theorem ascending_ranking (f : Scores) : f.ranking.Pairwise Entry.ByteBefore := by
  have distinct : f.ranking.Pairwise (· ≠ ·) := List.Nodup.of_map _ (nodup_members_ranking f)
  have ordered : f.ranking.Pairwise Entry.NotAfter := Multiset.pairwise_sort _ _
  exact (ordered.and distinct).imp fun both => both.1.resolve_left both.2

/-- The number of members of a map. -/
def size (f : Scores) : Nat := f.keys.card

theorem length_ranking (f : Scores) : f.ranking.length = f.size := by
  unfold ranking size
  rw [Multiset.length_sort, Multiset.card_map]
  exact (Multiset.card_map _ _).symm

/-- The entries between two bounds of the scores, in rank order. -/
def range (f : Scores) (lowest highest : Score) : List Entry :=
  f.ranking.filter fun e => decide (lowest ≤ e.score ∧ e.score ≤ highest)

/-- What the ranking of a map lists, and in which order. -/
structure RankOrder (f : Scores) : Prop where
  ascending : f.ranking.Pairwise Entry.ByteBefore
  once : (f.ranking.map Entry.member).Nodup
  complete : ∀ e, e ∈ f.ranking ↔ f.lookup e.member = some e.score
  part : ∀ lowest highest, (f.range lowest highest).Sublist f.ranking
  bounds : ∀ lowest highest e,
    e ∈ f.range lowest highest ↔ e ∈ f.ranking ∧ lowest ≤ e.score ∧ e.score ≤ highest
  crossed : ∀ lowest highest, highest < lowest → f.range lowest highest = []

theorem rankOrder (f : Scores) : f.RankOrder where
  ascending := ascending_ranking f
  once := nodup_members_ranking f
  complete _ := mem_ranking
  part _ _ := List.filter_sublist
  bounds lowest highest e := by
    rw [range, List.mem_filter, decide_eq_true_iff]
  crossed lowest highest crossed := by
    refine List.filter_eq_nil_iff.mpr fun e _ inside => ?_
    obtain ⟨above, below⟩ := of_decide_eq_true inside
    exact Int64.not_lt.mpr (Int64.le_trans above below) crossed

/-- The entries between two ranks. -/
def between (f : Scores) (start stop : Int64) : List Entry :=
  slice (fromEnd f.size start) (fromEnd f.size stop) f.ranking

/-- The map without the members between two ranks. -/
def withoutRanks (f : Scores) (start stop : Int64) : Scores :=
  (f.between start stop).foldl (fun f e => f.erase e.member) f

theorem lookup_foldl_erase (es : List Entry) (f : Scores) :
    (es.foldl (fun f e => Finmap.erase e.member f) f).lookup member =
      if member ∈ es.map Entry.member then none else f.lookup member := by
  induction es generalizing f with
  | nil => exact (if_neg List.not_mem_nil).symm
  | cons e es ih =>
    rw [List.foldl_cons, ih, List.map_cons]
    by_cases same : member = e.member
    · rw [same, Finmap.lookup_erase, ite_self, if_pos List.mem_cons_self]
    · simp only [Finmap.lookup_erase_ne same, List.mem_cons, same, false_or]

theorem lookup_withoutRanks {start stop : Int64} :
    (f.withoutRanks start stop).lookup member =
      if member ∈ (f.between start stop).map Entry.member then none else f.lookup member :=
  lookup_foldl_erase _ f

end Scores

/-! ### Sets that show a map -/

namespace SortedSet

/-- A set finds the scores of a map. -/
def Shows (s : SortedSet) (f : Scores) : Prop :=
  ∀ member, s.score? member = f.lookup member

namespace Shows

variable {s : SortedSet} {f : Scores} {member : String} {score : Score} {start stop : Int64}

theorem empty : SortedSet.empty.Shows ∅ := by
  intro member
  rw [Finmap.lookup_empty]
  rfl

/-- **A set lists the map that it shows in rank order.** -/
theorem entries_eq (shows : s.Shows f) : s.entries = f.ranking := by
  let listed : SortedSet :=
    ⟨f.ranking, f.ascending_ranking.imp Entry.byteBefore_iff.mp, f.nodup_members_ranking⟩
  have same : s = listed := eq_of_mem_iff fun e => by
    rw [Scores.mem_ranking, ← shows, score?_eq_some_iff]
  rw [same]

theorem size_eq (shows : s.Shows f) : s.size = f.size := by
  rw [← f.length_ranking, ← shows.entries_eq]
  rfl

theorem contains_eq (shows : s.Shows f) (member : String) :
    s.contains member = decide (member ∈ f) := by
  unfold contains
  rw [shows, Bool.eq_iff_iff, Finmap.lookup_isSome, decide_eq_true_iff]

theorem members_eq (shows : s.Shows f) : s.members = f.ranking.map Entry.member := by
  rw [← shows.entries_eq]
  rfl

theorem isEmpty_eq (shows : s.Shows f) : s.isEmpty = decide (f.size = 0) := by
  rw [← shows.size_eq]
  unfold isEmpty size
  cases s.entries <;> rfl

theorem range_eq (shows : s.Shows f) (lowest highest : Score) :
    s.range lowest highest = f.range lowest highest := by
  unfold range Scores.range
  rw [← shows.entries_eq]
  simp only [Bool.decide_and]

theorem ranks_eq (shows : s.Shows f) (countable : f.size < countBound) :
    s.ranks start stop = f.between start stop := by
  rw [← shows.size_eq] at countable
  rw [SortedSet.ranks_eq countable, shows.size_eq, shows.entries_eq]
  rfl

theorem insert (shows : s.Shows f) : (s.insert member score).Shows (Finmap.insert member score f) := by
  intro name
  rw [score?_insert]
  by_cases same : name = member
  · rw [if_pos same, same, Finmap.lookup_insert]
  · rw [if_neg same, Finmap.lookup_insert_of_ne _ same, shows]

theorem erase (shows : s.Shows f) : (s.erase member).Shows (Finmap.erase member f) := by
  intro name
  rw [score?_erase]
  by_cases same : name = member
  · rw [if_pos same, same, Finmap.lookup_erase]
  · rw [if_neg same, Finmap.lookup_erase_ne same, shows]

theorem removeRanks (shows : s.Shows f) (countable : f.size < countBound) :
    (s.removeRanks start stop).Shows (f.withoutRanks start stop) := by
  intro name
  rw [score?_removeRanks, Scores.lookup_withoutRanks, shows.ranks_eq countable, shows]

end Shows

end SortedSet

end CategoryFilter
