/-
**The two sets of a category.**

The keys of all sets are different (`Category.sideKey_inj`), so a database has a `pair` of sets for each
category. Recording a name puts it in one set and takes it out of the other:

* `exclusive_record`: a pair without a common name stays so.
* `contains_recordAll`: after some recordings a name is where the last one put it.
* `size_recordAll_le`: each recording adds one entry at most.
* `Reconciled`: what is left when excluded hits became passthroughs and other names were removed, with
  its numbers of members (`Reconciled.size_passthrough`, `Reconciled.size_add_le`).
-/

import CategoryFilter.Examiner.Refresh
import CategoryFilter.Proofs.Keys
import CategoryFilter.Proofs.Store.Execution
import Mathlib.Data.List.Perm.Subperm

namespace CategoryFilter

/-- The other set of a pair. -/
def Side.opposite : Side → Side
  | .hit => .passthrough
  | .passthrough => .hit

theorem Side.opposite_ne (side : Side) : side.opposite ≠ side := by
  cases side <;> decide

theorem Side.eq_opposite_of_ne {side other : Side} (different : side ≠ other) :
    side = other.opposite := by
  cases side <;> cases other <;> first | rfl | exact absurd rfl different

/-- The key of one of the sets of a category. -/
def Category.sideKey (category : String) : Side → String
  | .hit => hitKey category
  | .passthrough => passthroughKey category

/-- A key determines the category and the set. -/
theorem Category.sideKey_inj {first second : String} {side other : Side} :
    sideKey first side = sideKey second other ↔ first = second ∧ side = other := by
  constructor
  · intro same
    cases side <;> cases other
    · exact ⟨hitKey_injective same, rfl⟩
    · exact absurd same (hitKey_ne_passthroughKey _ _)
    · exact absurd same.symm (hitKey_ne_passthroughKey _ _)
    · exact ⟨passthroughKey_injective same, rfl⟩
  · rintro ⟨rfl, rfl⟩
    rfl

theorem Category.sideKey_ne_dynamicKey (first second : String) (side : Side) :
    sideKey first side ≠ dynamicKey second := by
  intro same
  cases side
  · exact dynamicKey_ne_hitKey _ _ same.symm
  · exact dynamicKey_ne_passthroughKey _ _ same.symm

/-- The two sets of a category. -/
abbrev SetPair := Side → SortedSet

/-- The two sets of a category in a database. -/
def Database.pair (db : Database) (category : String) : SetPair :=
  fun side => db.setAt (Category.sideKey category side)

namespace SetPair

/-- No name is in both sets. -/
def Exclusive (p : SetPair) : Prop :=
  ∀ name, ¬ ((p .hit).contains name = true ∧ (p .passthrough).contains name = true)

/-- The pair with a name in one set and not in the other. -/
def record (p : SetPair) (m : Member) (score : Score) : SetPair := fun side =>
  if side = m.side then (p side).insert m.domain score else (p side).erase m.domain

/-- The pair with another set on one side. -/
def set (p : SetPair) (side : Side) (replaced : SortedSet) : SetPair := fun other =>
  if other = side then replaced else p other

variable {p : SetPair} {m : Member} {score : Score} {side : Side} {name : String}

theorem contains_record :
    (p.record m score side).contains name =
      if name = m.domain then decide (side = m.side) else (p side).contains name := by
  unfold record
  by_cases own : side = m.side
  · rw [if_pos own, SortedSet.contains_insert]
    by_cases same : name = m.domain <;> simp [same, own]
  · rw [if_neg own, SortedSet.contains_erase]
    by_cases same : name = m.domain <;> simp [same, own]

theorem score?_record :
    (p.record m score side).score? name =
      if name = m.domain then if side = m.side then some score else none
      else (p side).score? name := by
  unfold record
  by_cases own : side = m.side
  · rw [if_pos own, SortedSet.score?_insert, if_pos own]
  · rw [if_neg own, SortedSet.score?_erase, if_neg own]

theorem exclusive_record (held : p.Exclusive) : (p.record m score).Exclusive := by
  rintro name ⟨hit, passthrough⟩
  rw [contains_record] at hit passthrough
  by_cases same : name = m.domain
  · rw [if_pos same, decide_eq_true_iff] at hit passthrough
    rw [← hit] at passthrough
    cases passthrough
  · rw [if_neg same] at hit passthrough
    exact held name ⟨hit, passthrough⟩

theorem Exclusive.of_within {q : SetPair} (held : p.Exclusive)
    (inside : ∀ side, (q side).Within (p side)) : q.Exclusive :=
  fun name both =>
    held name ⟨(inside .hit).contains both.1, (inside .passthrough).contains both.2⟩

theorem set_within {replaced : SortedSet} (inside : replaced.Within (p side)) (other : Side) :
    (p.set side replaced other).Within (p other) := by
  unfold set
  split
  · next same => exact same ▸ inside
  · exact SortedSet.Within.refl _

/-! ### Several recordings -/

/-- The pair after some names were recorded, all with one score. -/
def recordAll (p : SetPair) (score : Score) (ms : List Member) : SetPair :=
  ms.foldl (fun p m => p.record m score) p

/-- The set that the last recording of a name puts it in. -/
def lastSide? (name : String) : List Member → Option Side
  | [] => none
  | m :: ms => (lastSide? name ms).or (if m.domain = name then some m.side else none)

theorem lastSide?_eq_none_iff {ms : List Member} :
    lastSide? name ms = none ↔ ∀ m ∈ ms, m.domain ≠ name := by
  induction ms with
  | nil => simp [lastSide?]
  | cons m ms ih =>
    rw [lastSide?, Option.or_eq_none_iff, ih, List.forall_mem_cons, and_comm]
    refine and_congr_left fun _ => ?_
    split
    · next same => simp [same]
    · next other => simp [other]

/-- Recording some names in one set puts each of them there. -/
theorem lastSide?_map (name : String) (side : Side) (names : List String) :
    lastSide? name (names.map (⟨·, side⟩)) = if name ∈ names then some side else none := by
  induction names with
  | nil => rfl
  | cons other rest ih =>
    rw [List.map_cons, lastSide?, ih]
    by_cases later : name ∈ rest
    · rw [if_pos later, if_pos (List.mem_cons_of_mem _ later)]
      rfl
    · rw [if_neg later, Option.none_or]
      by_cases same : other = name
      · rw [if_pos same, if_pos (same ▸ List.mem_cons_self)]
      · have absent : name ∉ other :: rest := fun listed =>
          (List.mem_cons.mp listed).elim (fun equal => same equal.symm) later
        rw [if_neg same, if_neg absent]

/-- A name has the new score where its last recording puts it, or the score it had if there is none. -/
theorem score?_recordAll (p : SetPair) (score : Score) (ms : List Member) (side : Side)
    (name : String) :
    (p.recordAll score ms side).score? name =
      match lastSide? name ms with
      | some last => if side = last then some score else none
      | none => (p side).score? name := by
  induction ms generalizing p with
  | nil => rfl
  | cons m ms ih =>
    show ((p.record m score).recordAll score ms side).score? name = _
    rw [ih, lastSide?]
    cases lastSide? name ms with
    | some last => rfl
    | none =>
      show (p.record m score side).score? name = _
      rw [score?_record, Option.none_or]
      by_cases same : name = m.domain
      · rw [if_pos same, if_pos same.symm]
      · rw [if_neg same, if_neg (Ne.symm same)]

/-- **A name is where its last recording puts it**, or where it was if there is none. -/
theorem contains_recordAll (p : SetPair) (score : Score) (ms : List Member) (side : Side)
    (name : String) :
    (p.recordAll score ms side).contains name =
      match lastSide? name ms with
      | some last => decide (side = last)
      | none => (p side).contains name := by
  unfold SortedSet.contains
  rw [score?_recordAll]
  cases lastSide? name ms with
  | some last => by_cases same : side = last <;> simp [same]
  | none => rfl

theorem lastSide?_append (first second : List Member) :
    lastSide? name (first ++ second) = (lastSide? name second).or (lastSide? name first) := by
  induction first with
  | nil =>
    show lastSide? name second = (lastSide? name second).or none
    rw [Option.or_none]
  | cons m ms ih =>
    show (lastSide? name (ms ++ second)).or _ = (lastSide? name second).or (Option.or _ _)
    rw [ih, Option.or_assoc]

theorem mem_of_lastSide? {ms : List Member} (last : lastSide? name ms = some side) :
    ⟨name, side⟩ ∈ ms := by
  induction ms with
  | nil => cases last
  | cons m ms ih =>
    rw [lastSide?, Option.or_eq_some_iff] at last
    rcases last with later | ⟨-, here⟩
    · exact List.mem_cons_of_mem _ (ih later)
    · split at here
      · next same =>
        cases here
        exact List.mem_cons.mpr (Or.inl (by rw [← same]))
      · cases here

/-- A name is where the last element of an ordered list that records it puts it. -/
theorem exists_last {β : Type} {R : β → β → Prop} {entry : β → Option Member} {items : List β}
    (ordered : items.Pairwise R)
    (last : lastSide? name (items.flatMap fun c => (entry c).toList) = some side) :
    ∃ c ∈ items, entry c = some ⟨name, side⟩ ∧
      ∀ b ∈ items, ∀ m, entry b = some m → m.domain = name → b = c ∨ R b c := by
  induction items with
  | nil => cases last
  | cons first rest ih =>
    obtain ⟨before, ordered⟩ := List.pairwise_cons.mp ordered
    rw [List.flatMap_cons, lastSide?_append] at last
    -- If an element of the rest records the name too, the last of them decides, and not `first`.
    cases later : lastSide? name (rest.flatMap fun c => (entry c).toList) with
    | some other =>
      rw [later, Option.some_or] at last
      obtain ⟨c, there, written, greatest⟩ := ih ordered (later.trans last)
      refine ⟨c, List.mem_cons_of_mem _ there, written, fun b listed m made same => ?_⟩
      rcases List.mem_cons.mp listed with rfl | listed
      · exact Or.inr (before c there)
      · exact greatest b listed m made same
    | none =>
      rw [later, Option.none_or] at last
      refine ⟨first, List.mem_cons_self, Option.mem_toList.mp (mem_of_lastSide? last),
        fun b listed m made same => ?_⟩
      rcases List.mem_cons.mp listed with rfl | listed
      · exact Or.inl rfl
      · exact absurd same (lastSide?_eq_none_iff.mp later m
          (List.mem_flatMap.mpr ⟨b, listed, Option.mem_toList.mpr made⟩))

/-- If a name is not where one element of an ordered list puts it, then a later element put it into the
other set. -/
theorem exists_later {β : Type} {R : β → β → Prop} {entry : β → Option Member} {items : List β}
    {b : β} (ordered : items.Pairwise R) (listed : b ∈ items) (here : entry b = some m)
    (last : lastSide? m.domain (items.flatMap fun c => (entry c).toList) ≠ some m.side) :
    ∃ c ∈ items, R b c ∧ entry c = some ⟨m.domain, m.side.opposite⟩ := by
  cases side : lastSide? m.domain (items.flatMap fun c => (entry c).toList) with
  | none =>
    exact absurd rfl (lastSide?_eq_none_iff.mp side m
      (List.mem_flatMap.mpr ⟨b, listed, Option.mem_toList.mpr here⟩))
  | some decided =>
    obtain ⟨c, there, written, greatest⟩ := exists_last ordered side
    rw [side] at last
    have across : decided ≠ m.side := fun same => last (congrArg some same)
    refine ⟨c, there, ?_, by rw [written, Side.eq_opposite_of_ne across]⟩
    refine (greatest b listed m here rfl).resolve_left fun same => ?_
    rw [same, written] at here
    exact across (congrArg Member.side (Option.some.inj here))

theorem size_record_le : (p.record m score side).size ≤ (p side).size + 1 := by
  unfold record
  split
  · exact SortedSet.size_insert_le
  · exact Nat.le_succ_of_le SortedSet.size_erase_le

theorem size_recordAll_le (p : SetPair) (score : Score) (ms : List Member) (side : Side) :
    (p.recordAll score ms side).size ≤ (p side).size + ms.length := by
  induction ms generalizing p with
  | nil => exact Nat.le_refl _
  | cons m ms ih =>
    have first : (p.record m score side).size ≤ (p side).size + 1 := size_record_le
    have later := ih (p.record m score)
    show ((p.record m score).recordAll score ms side).size ≤ (p side).size + (ms.length + 1)
    omega

/-- A new score for a name in its set changes no size, if the name is in that set only. -/
theorem size_record_of_contains (held : p.Exclusive) (here : (p m.side).contains m.domain = true)
    (score : Score) (side : Side) : (p.record m score side).size = (p side).size := by
  unfold record
  by_cases own : side = m.side
  · rw [if_pos own, own]
    exact SortedSet.size_insert_of_contains here
  · rw [if_neg own]
    have absent : (p side).contains m.domain = false := by
      refine Bool.eq_false_iff.mpr fun there => held m.domain ?_
      cases side <;> cases other : m.side <;> rw [other] at here own
      · exact absurd rfl own
      · exact ⟨there, here⟩
      · exact ⟨here, there⟩
      · exact absurd rfl own
    rw [SortedSet.erase_of_not_contains absent]

/-! ### Several removals -/

/-- The pair after a name left one of its sets. -/
def remove (p : SetPair) (m : Member) : SetPair :=
  p.set m.side ((p m.side).erase m.domain)

/-- The pair after some names left their sets. -/
def removeAll (p : SetPair) (ms : List Member) : SetPair :=
  ms.foldl remove p

theorem remove_within (side : Side) : (p.remove m side).Within (p side) :=
  set_within SortedSet.erase_within side

theorem contains_remove :
    (p.remove m side).contains name = ((p side).contains name && ⟨name, side⟩ != m) := by
  obtain ⟨domain, own⟩ := m
  unfold remove set
  by_cases same : side = own
  · subst same
    rw [if_pos rfl, SortedSet.contains_erase, Bool.and_comm]
    by_cases equal : name = domain
    · simp [equal]
    · have other : (⟨name, side⟩ : Member) ≠ ⟨domain, side⟩ := fun same =>
        equal (congrArg Member.domain same)
      rw [bne_iff_ne.mpr equal, bne_iff_ne.mpr other]
  · have other : (⟨name, side⟩ : Member) ≠ ⟨domain, own⟩ := fun equal =>
      same (congrArg Member.side equal)
    rw [if_neg same, bne_iff_ne.mpr other, Bool.and_true]

theorem score?_remove :
    (p.remove m side).score? name = if ⟨name, side⟩ = m then none else (p side).score? name := by
  obtain ⟨domain, own⟩ := m
  unfold remove set
  by_cases same : side = own
  · subst same
    rw [if_pos rfl, SortedSet.score?_erase]
    exact if_congr (by simp) rfl rfl
  · have other : (⟨name, side⟩ : Member) ≠ ⟨domain, own⟩ := fun equal =>
      same (congrArg Member.side equal)
    rw [if_neg same, if_neg other]

theorem score?_removeAll (p : SetPair) (ms : List Member) (side : Side) (name : String) :
    (p.removeAll ms side).score? name =
      if ⟨name, side⟩ ∈ ms then none else (p side).score? name := by
  induction ms generalizing p with
  | nil => rfl
  | cons m ms ih =>
    show ((p.remove m).removeAll ms side).score? name = _
    rw [ih, score?_remove]
    by_cases later : ⟨name, side⟩ ∈ ms
    · rw [if_pos later, if_pos (List.mem_cons_of_mem _ later)]
    · rw [if_neg later]
      exact if_congr (by rw [List.mem_cons, or_iff_left later]) rfl rfl

/-- A removed name is gone from its set, and all other names are where they were. -/
theorem contains_removeAll (p : SetPair) (ms : List Member) (side : Side) (name : String) :
    (p.removeAll ms side).contains name = ((p side).contains name && !ms.contains ⟨name, side⟩) := by
  induction ms generalizing p with
  | nil => exact (Bool.and_true _).symm
  | cons m ms ih =>
    show ((p.remove m).removeAll ms side).contains name = _
    rw [ih, contains_remove, List.contains_cons, Bool.not_or, Bool.and_assoc]
    rfl

/-! ### After a reconciliation -/

/-- What is left of a pair when its excluded hits became passthroughs and names that are not excluded
were removed. -/
structure Reconciled (x : Exclusions) (p q : SetPair) : Prop where
  hits : ∀ name, (q .hit).contains name = true →
    (p .hit).contains name = true ∧ x.covers name = false
  moved : ∀ name, (p .hit).contains name = true → x.covers name = true →
    (q .passthrough).contains name = true
  passthroughs : ∀ name, (q .passthrough).contains name = true →
    (p .passthrough).contains name = true ∨
      ((p .hit).contains name = true ∧ x.covers name = true)

/-- The excluded hits of a pair. -/
def excluded (p : SetPair) (x : Exclusions) : List String :=
  (p .hit).members.filter x.covers

theorem mem_excluded {x : Exclusions} :
    name ∈ p.excluded x ↔ (p .hit).contains name = true ∧ x.covers name = true := by
  rw [excluded, List.mem_filter, SortedSet.contains_iff]

/-- The passthroughs of a pair that another pair still has. -/
def remaining (p q : SetPair) : List String :=
  (p .passthrough).members.filter (q .passthrough).contains

/-- Making the excluded hits passthroughs reconciles a pair. -/
theorem reconciled_recordAll (p : SetPair) (x : Exclusions) (score : Score) :
    p.Reconciled x (p.recordAll score ((p.excluded x).map (⟨·, .passthrough⟩))) := by
  refine ⟨fun name held => ?_, fun name hit covered => ?_, fun name held => ?_⟩
  · rw [contains_recordAll, lastSide?_map] at held
    by_cases listed : name ∈ p.excluded x
    · rw [if_pos listed] at held
      cases held
    · rw [if_neg listed] at held
      refine ⟨held, Bool.eq_false_iff.mpr fun covered => listed ?_⟩
      exact mem_excluded.mpr ⟨held, covered⟩
  · rw [contains_recordAll, lastSide?_map, if_pos (mem_excluded.mpr ⟨hit, covered⟩)]
    rfl
  · rw [contains_recordAll, lastSide?_map] at held
    by_cases listed : name ∈ p.excluded x
    · exact Or.inr (mem_excluded.mp listed)
    · rw [if_neg listed] at held
      exact Or.inl held

namespace Reconciled

variable {q : SetPair} {x : Exclusions}

theorem after_remove (reconciled : p.Reconciled x q) (kept : x.covers m.domain = false) :
    p.Reconciled x (q.remove m) := by
  refine ⟨fun name held => reconciled.hits name ((remove_within .hit).contains held),
    fun name hit covered => ?_,
    fun name held => reconciled.passthroughs name ((remove_within .passthrough).contains held)⟩
  have other : (⟨name, .passthrough⟩ : Member) ≠ m := by
    rintro rfl
    rw [covered] at kept
    cases kept
  rw [contains_remove, reconciled.moved name hit covered, Bool.true_and]
  exact bne_iff_ne.mpr other

/-- The passthroughs are the former ones that are left and the excluded hits. -/
theorem size_passthrough (held : p.Exclusive) (reconciled : p.Reconciled x q) :
    (q .passthrough).size = (p.excluded x).length + (p.remaining q).length := by
  have distinct : (p.excluded x ++ p.remaining q).Nodup := by
    refine List.nodup_append.mpr ⟨SortedSet.nodup_members.filter _,
      SortedSet.nodup_members.filter _, ?_⟩
    rintro first hit second passthrough rfl
    exact held first ⟨(mem_excluded.mp hit).1,
      SortedSet.contains_iff.mpr (List.mem_filter.mp passthrough).1⟩
  have same : (q .passthrough).members.Perm (p.excluded x ++ p.remaining q) := by
    refine (List.perm_ext_iff_of_nodup SortedSet.nodup_members distinct).mpr fun name => ?_
    rw [List.mem_append, mem_excluded, remaining, List.mem_filter, ← SortedSet.contains_iff,
      ← SortedSet.contains_iff]
    constructor
    · intro there
      rcases reconciled.passthroughs name there with old | moved
      · exact Or.inr ⟨old, there⟩
      · exact Or.inl moved
    · rintro (⟨hit, covered⟩ | ⟨-, there⟩)
      · exact reconciled.moved name hit covered
      · exact there
  rw [← SortedSet.length_members, same.length_eq, List.length_append]

theorem size_hit_le (reconciled : p.Reconciled x q) :
    (q .hit).size + (p.excluded x).length ≤ (p .hit).size := by
  have inside : (q .hit).members.Subperm ((p .hit).members.filter fun name => !x.covers name) := by
    refine SortedSet.nodup_members.subperm fun name listed => ?_
    obtain ⟨hit, free⟩ := reconciled.hits name (SortedSet.contains_iff.mpr listed)
    exact List.mem_filter.mpr ⟨SortedSet.contains_iff.mp hit, by rw [free]; rfl⟩
  have kept := inside.length_le
  have split := List.length_eq_length_filter_add (l := (p .hit).members) x.covers
  rw [SortedSet.length_members] at kept split
  unfold excluded
  omega

/-- A reconciliation adds no members to the two sets together. -/
theorem size_add_le (held : p.Exclusive) (reconciled : p.Reconciled x q) :
    (q .hit).size + (q .passthrough).size ≤ (p .hit).size + (p .passthrough).size := by
  have hits := reconciled.size_hit_le
  have left : (p.remaining q).length ≤ (p .passthrough).size := by
    rw [← SortedSet.length_members]
    exact List.length_filter_le _ _
  rw [reconciled.size_passthrough held]
  omega

end Reconciled

end SetPair

end CategoryFilter
