/-
**What the operations of a sorted set do to its scores, its members and its size.**

A set is seen through `score?`; membership and size follow from it.

* `score?_insert`, `score?_erase`: an operation on one member leaves the scores of all others.
* `Within`: every entry of one set is an entry of another, in the same order. Erasing and removing
  ranks give sets within the old one, so that nothing new comes in and no score changes.
* `eq_of_mem_iff`: a set is determined by its entries.
* `newest`: what a cut to a limit leaves.
-/

import CategoryFilter.SortedSet.Basic
import Mathlib.Data.List.Nodup

namespace CategoryFilter

theorem Entry.length_place (e : Entry) (xs : List Entry) :
    (Entry.place e xs).length = xs.length + 1 := by
  induction xs with
  | nil => rfl
  | cons x xs ih =>
    unfold Entry.place
    split
    · rfl
    · rw [List.length_cons, ih, List.length_cons]

namespace SortedSet

variable {s t u : SortedSet} {member other : String} {score : Score}

/-! ### Scores and members -/

theorem score?_eq_some_iff : s.score? member = some score ↔ ⟨member, score⟩ ∈ s.entries := by
  simp only [score?, Option.map_eq_some_iff]
  constructor
  · rintro ⟨e, found, rfl⟩
    have same : e.member = member := by simpa using List.find?_some found
    exact same ▸ List.mem_of_find?_eq_some found
  · intro listed
    cases search : s.entries.find? fun e => e.member = member with
    | none =>
      have absent := List.find?_eq_none.mp search _ listed
      simp at absent
    | some e =>
      have same : e.member = member := by simpa using List.find?_some search
      have equal : e = ⟨member, score⟩ :=
        List.inj_on_of_nodup_map s.unique (List.mem_of_find?_eq_some search) listed same
      exact ⟨e, rfl, by rw [equal]⟩

theorem contains_iff : s.contains member = true ↔ member ∈ s.members := by
  simp only [contains, Option.isSome_iff_exists, score?_eq_some_iff, members, List.mem_map]
  constructor
  · rintro ⟨score, listed⟩
    exact ⟨_, listed, rfl⟩
  · rintro ⟨e, listed, rfl⟩
    exact ⟨e.score, listed⟩

theorem nodup_members : s.members.Nodup := s.unique

theorem nodup_entries : s.entries.Nodup := List.Nodup.of_map _ s.unique

/-- Two sets with the same entries list them in the same order. -/
theorem eq_of_mem_iff (same : ∀ e, e ∈ s.entries ↔ e ∈ t.entries) : s = t := by
  have permuted : s.entries.Perm t.entries :=
    (List.perm_ext_iff_of_nodup nodup_entries nodup_entries).mpr same
  have equal : s.entries = t.entries := permuted.eq_of_pairwise
    (fun a b _ _ first second => absurd (first.trans second) (Entry.Before.irrefl a)) s.ranked t.ranked
  obtain ⟨entries, ranked, unique⟩ := s
  cases equal
  rfl

theorem length_members : s.members.length = s.size := List.length_map ..

@[simp] theorem contains_empty : empty.contains member = false := rfl

theorem score?_erase :
    (s.erase member).score? other = if other = member then none else s.score? other := by
  ext score
  rw [score?_eq_some_iff]
  by_cases same : other = member
  · subst same
    simp [erase, filter]
  · rw [if_neg same, score?_eq_some_iff]
    simp [erase, filter, same]

theorem score?_insert :
    (s.insert member score).score? other = if other = member then some score else s.score? other := by
  ext found
  rw [score?_eq_some_iff]
  show ⟨other, found⟩ ∈ Entry.place ⟨member, score⟩ (s.erase member).entries ↔ _
  rw [Entry.mem_place, ← score?_eq_some_iff, score?_erase]
  by_cases same : other = member
  · subst same
    simp [eq_comm]
  · simp [same]

theorem contains_erase :
    (s.erase member).contains other = (other != member && s.contains other) := by
  by_cases same : other = member <;> simp [contains, score?_erase, same]

theorem contains_insert :
    (s.insert member score).contains other = (other == member || s.contains other) := by
  by_cases same : other = member <;> simp [contains, score?_insert, same]

theorem erase_of_not_contains (absent : s.contains member = false) : s.erase member = s := by
  have kept : s.entries.filter (fun e => e.member != member) = s.entries := by
    refine List.filter_eq_self.mpr fun e listed => ?_
    have : e.member ∈ s.members := List.mem_map_of_mem listed
    refine bne_iff_ne.mpr fun same => ?_
    rw [same, ← contains_iff, absent] at this
    cases this
  obtain ⟨entries, ranked, unique⟩ := s
  simp only [erase, filter] at kept ⊢
  simp only [kept]

/-! ### Sizes -/

theorem members_erase : (s.erase member).members = s.members.erase member := by
  rw [nodup_members.erase_eq_filter]
  simp only [members, erase, filter, List.filter_map]
  rfl

theorem size_erase : (s.erase member).size = if s.contains member then s.size - 1 else s.size := by
  rw [← length_members, members_erase, List.length_erase, length_members]
  by_cases here : member ∈ s.members
  · rw [if_pos here, if_pos (contains_iff.mpr here)]
  · rw [if_neg here, if_neg fun there => here (contains_iff.mp there)]

theorem size_insert : (s.insert member score).size = (s.erase member).size + 1 :=
  Entry.length_place ..

theorem size_pos (held : s.contains member = true) : 0 < s.size := by
  rw [← length_members]
  exact List.length_pos_of_mem (contains_iff.mp held)

theorem size_erase_le : (s.erase member).size ≤ s.size := by
  rw [size_erase]
  split <;> omega

theorem size_insert_le : (s.insert member score).size ≤ s.size + 1 := by
  rw [size_insert]
  exact Nat.succ_le_succ size_erase_le

theorem size_insert_of_contains (held : s.contains member = true) :
    (s.insert member score).size = s.size := by
  have := size_pos held
  rw [size_insert, size_erase, if_pos held]
  omega

/-! ### Sets within a set -/

/-- Every entry of a set is one of another, in the same order. -/
def Within (s t : SortedSet) : Prop := s.entries.Sublist t.entries

namespace Within

theorem refl (s : SortedSet) : s.Within s := List.Sublist.refl _

theorem score? (inside : s.Within t) (found : s.score? member = some score) :
    t.score? member = some score :=
  score?_eq_some_iff.mpr (inside.subset (score?_eq_some_iff.mp found))

theorem contains (inside : s.Within t) (held : s.contains member = true) :
    t.contains member = true :=
  contains_iff.mpr ((inside.map Entry.member).subset (contains_iff.mp held))

theorem size_le (inside : s.Within t) : s.size ≤ t.size := List.Sublist.length_le inside

end Within

theorem empty_within : empty.Within s := List.nil_sublist _

theorem erase_within : (s.erase member).Within s := List.filter_sublist

theorem dropRanks_within (first count : Nat) : (s.dropRanks first count).Within s := by
  have tail : (s.entries.drop (first + count)).Sublist (s.entries.drop first) := by
    rw [← List.drop_drop]
    exact List.drop_sublist count _
  exact ((List.Sublist.refl _).append tail).trans (by simp)

theorem removeRanks_within (start stop : Int64) : (s.removeRanks start stop).Within s := by
  unfold removeRanks
  split
  · exact dropRanks_within _ _
  · exact Within.refl s

/-! ### The newest entries -/

theorem size_dropRanks_zero (count : Nat) : (s.dropRanks 0 count).size = s.size - count := by
  simp [dropRanks, size]

/-- The entries of the highest ranks, `limit` of them at most. -/
def newest (s : SortedSet) (limit : Nat) : SortedSet :=
  s.dropRanks 0 (s.size - limit)

theorem size_newest (limit : Nat) : (s.newest limit).size = min s.size limit := by
  rw [newest, size_dropRanks_zero]
  omega

/-- The entries of higher rank than an entry are those listed after it. -/
theorem countP_before {e : Entry} {lower higher : List Entry}
    (split : s.entries = lower ++ e :: higher) :
    s.entries.countP (fun x => decide (e.Before x)) = higher.length := by
  have ranked := s.ranked
  rw [split] at ranked
  obtain ⟨-, above, below⟩ := List.pairwise_append.mp ranked
  have none : lower.countP (fun x => decide (e.Before x)) = 0 := by
    refine List.countP_eq_zero.mpr fun x there after => ?_
    exact Entry.Before.irrefl e ((of_decide_eq_true after).trans (below x there e List.mem_cons_self))
  have all : higher.countP (fun x => decide (e.Before x)) = higher.length :=
    List.countP_eq_length.mpr fun x there => decide_eq_true ((List.pairwise_cons.mp above).1 x there)
  have own : (e :: higher).countP (fun x => decide (e.Before x)) =
      higher.countP (fun x => decide (e.Before x)) :=
    List.countP_cons_of_neg (by simp [Entry.Before.irrefl e])
  rw [split, List.countP_append, own, none, all, Nat.zero_add]

theorem entries_newest (limit : Nat) : (s.newest limit).entries = s.entries.drop (s.size - limit) := by
  show s.entries.take 0 ++ s.entries.drop (0 + (s.size - limit)) = _
  rw [List.take_zero, List.nil_append, Nat.zero_add]

/-- **What a cut to a limit leaves**: the entries with fewer than `limit` entries of higher rank. -/
theorem mem_newest {limit : Nat} {e : Entry} :
    e ∈ (s.newest limit).entries ↔
      e ∈ s.entries ∧ s.entries.countP (fun x => decide (e.Before x)) < limit := by
  rw [entries_newest, size]
  by_cases listed : e ∈ s.entries
  · obtain ⟨lower, higher, split⟩ := List.append_of_mem listed
    have ranked := s.ranked
    rw [split] at ranked
    have fresh : e ∉ higher := fun again => Entry.Before.irrefl e
      ((List.pairwise_cons.mp (List.pairwise_append.mp ranked).2.1).1 e again)
    rw [and_iff_right listed, countP_before split, split, List.length_append, List.length_cons,
      List.drop_append, List.mem_append]
    by_cases few : higher.length < limit
    · refine iff_of_true (Or.inr ?_) few
      rw [Nat.sub_eq_zero_of_le (by omega), List.drop_zero]
      exact List.mem_cons_self
    · refine iff_of_false ?_ few
      have past : lower.length + (higher.length + 1) - limit - lower.length =
          higher.length - limit + 1 := by omega
      rw [List.drop_of_length_le (by omega), past, List.drop_succ_cons]
      exact not_or.mpr ⟨List.not_mem_nil, fun there => fresh (List.mem_of_mem_drop there)⟩
  · exact iff_of_false (fun there => listed (List.mem_of_mem_drop there)) fun there => listed there.1

theorem newest_of_size_le {limit : Nat} (fits : s.size ≤ limit) : s.newest limit = s := by
  obtain ⟨entries, ranked, unique⟩ := s
  have none : entries.length - limit = 0 := Nat.sub_eq_zero_of_le fits
  simp [newest, dropRanks, size, none]

end SortedSet

end CategoryFilter
