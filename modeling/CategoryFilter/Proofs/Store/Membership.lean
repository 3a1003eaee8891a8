/-
**When the store says that a membership changed.**

Two pairs have the same members if each name is in the same of their sets; the scores do not count. The
actions of the store answer whether they changed the members of a pair, and their answers are right:

* `sameMembers_record`: recording a name changes no member if it is in its set and in no other.
* `trim_answer`: a cut that counts no removed entry leaves both sets as they are, however large they
  are.
* `execute_clear`, `clear_done`: clearing both sets says whether either had members, and both are empty
  once it has answered.
-/

import CategoryFilter.Proofs.Store.Write

namespace CategoryFilter

namespace SortedSet

variable {s : SortedSet} {member : String}

theorem isEmpty_iff : s.isEmpty = true ↔ s = .empty := by
  obtain ⟨entries, ranked, unique⟩ := s
  cases entries with
  | nil => exact ⟨fun _ => rfl, fun _ => rfl⟩
  | cons e rest =>
    refine ⟨fun none => ?_, fun same => ?_⟩
    · cases none
    · cases same

theorem exists_member (some : s ≠ .empty) : ∃ member, s.contains member = true := by
  obtain ⟨entries, ranked, unique⟩ := s
  cases entries with
  | nil => exact absurd rfl some
  | cons e rest => exact ⟨e.member, contains_iff.mpr List.mem_cons_self⟩

theorem eq_empty_of_forall (none : ∀ member, s.contains member = false) : s = .empty := by
  by_contra some
  obtain ⟨member, held⟩ := exists_member some
  rw [none member] at held
  cases held

/-- A removal by rank that finds no entries changes nothing. -/
theorem removeRanks_of_none {start stop : Int64} (none : (s.ranks start stop).length = 0) :
    s.removeRanks start stop = s := by
  obtain ⟨entries, ranked, unique⟩ := s
  unfold removeRanks
  unfold ranks at none
  split at none
  · next first count span =>
    have short : (entries.drop first).take count = [] := List.eq_nil_of_length_eq_zero none
    have kept : entries.take first ++ entries.drop (first + count) = entries := by
      have split := List.take_append_drop count (entries.drop first)
      rw [short, List.nil_append, List.drop_drop] at split
      rw [split, List.take_append_drop]
    simp only [dropRanks, kept]
  · rfl

end SortedSet

namespace SetPair

/-- Each name is in the same sets of both pairs. -/
def SameMembers (p q : SetPair) : Prop :=
  ∀ side name, (q side).contains name = (p side).contains name

variable {p q r : SetPair} {m : Member} {score : Score}

namespace SameMembers

theorem refl (p : SetPair) : p.SameMembers p := fun _ _ => rfl

theorem trans (first : p.SameMembers q) (second : q.SameMembers r) : p.SameMembers r :=
  fun side name => (second side name).trans (first side name)

theorem of_eq (same : q = p) : p.SameMembers q := by
  rw [same]
  exact refl p

end SameMembers

/-- What recording a name changes of the memberships. -/
def gains (p : SetPair) (m : Member) : Bool :=
  !(p m.side).contains m.domain || (p m.side.opposite).contains m.domain

theorem sameMembers_record (none : p.gains m = false) : p.SameMembers (p.record m score) := by
  unfold gains at none
  rw [Bool.or_eq_false_iff, Bool.not_eq_false'] at none
  intro side name
  rw [contains_record]
  split
  · next same =>
    rw [same]
    by_cases own : side = m.side
    · rw [own, none.1]
      simp
    · rw [Side.eq_opposite_of_ne own, none.2]
      simp [m.side.opposite_ne]
  · rfl

theorem gains_of_exclusive (held : p.Exclusive) (here : (p m.side).contains m.domain = true) :
    p.gains m = false := by
  have absent : (p m.side.opposite).contains m.domain = false := by
    refine Bool.eq_false_iff.mpr fun there => held m.domain ?_
    cases own : m.side <;> rw [own] at here there
    · exact ⟨here, there⟩
    · exact ⟨there, here⟩
  unfold gains
  rw [here, absent]
  rfl

/-- A new score for a member, in sets without a common name, is all that its recording changes. -/
theorem score?_record_of_contains (held : p.Exclusive) (here : (p m.side).contains m.domain = true)
    (score : Score) (other : Member) :
    (p.record m score other.side).score? other.domain =
      if other = m then some score else (p other.side).score? other.domain := by
  rw [score?_record]
  by_cases name : other.domain = m.domain
  · rw [if_pos name]
    by_cases side : other.side = m.side
    · have same : other = m := by
        cases other
        cases m
        cases name
        cases side
        rfl
      rw [if_pos side, if_pos same]
    · have different : other ≠ m := fun same => side (congrArg Member.side same)
      have absent : (p other.side).contains other.domain = false := by
        rw [name, Side.eq_opposite_of_ne side]
        have none := gains_of_exclusive held here
        unfold gains at none
        exact (Bool.or_eq_false_iff.mp none).2
      rw [if_neg side, if_neg different]
      exact (Option.not_isSome_iff_eq_none.mp (Bool.eq_false_iff.mp absent)).symm
  · have different : other ≠ m := fun same => name (congrArg Member.domain same)
    rw [if_neg name, if_neg different]

theorem sameMembers_remove (absent : (p m.side).contains m.domain = false) :
    p.SameMembers (p.remove m) := by
  intro side name
  rw [contains_remove]
  by_cases same : (⟨name, side⟩ : Member) = m
  · subst same
    rw [absent]
    rfl
  · rw [bne_iff_ne.mpr same, Bool.and_true]

end SetPair

namespace Database

open Category (sideKey setKeys)

variable {db after : Database} {category : String}

/-- A cut of one set leaves its pair alone if it counts no entry. -/
theorem trimSet_answer (healthy : db.Healthy) (category : String) (side : Side) (limit : Nat) :
    ∃ count after,
      execute (Classification.trimSet (sideKey category side) limit) db = (.ok count, after) ∧
      after.Healthy ∧ (count = 0 → after.pair category = db.pair category) := by
  unfold Classification.trimSet
  rw [execute_bind_ok (execute_size healthy.present)]
  by_cases fits : (db.setAt (sideKey category side)).size ≤ limit
  · rw [if_pos fits]
    exact ⟨0, db, rfl, healthy, fun _ => rfl⟩
  · rw [if_neg fits, execute_removeRanks healthy]
    refine ⟨_, _, rfl, healthy.replace _ _, fun none => ?_⟩
    rw [pair_replace, if_pos rfl, SortedSet.removeRanks_of_none none]
    funext other
    unfold SetPair.set
    split
    · next same => rw [same]; rfl
    · rfl

/-- **A cut that counts no entry leaves both sets alone.** -/
theorem trim_answer (healthy : db.Healthy) (category : String) (limit : Nat) :
    ∃ count after, execute (Classification.trim (setKeys category) limit) db = (.ok count, after) ∧
      (count = 0 → after.pair category = db.pair category) := by
  obtain ⟨hits, middle, first, sound, hitsKept⟩ := trimSet_answer healthy category .hit limit
  obtain ⟨passthroughs, after, second, -, passthroughsKept⟩ :=
    trimSet_answer sound category .passthrough limit
  have first : execute (Classification.trimSet (setKeys category).hit limit) db = _ := first
  have second : execute (Classification.trimSet (setKeys category).passthrough limit) middle = _ :=
    second
  refine ⟨hits + passthroughs, after, ?_, fun none => ?_⟩
  · unfold Classification.trim
    rw [execute_bind_ok first, execute_bind_ok second, execute_pure]
  · rw [passthroughsKept (by omega), hitsKept (by omega)]

/-! ### Clearing both sets -/

theorem execute_delete (healthy : db.Healthy) (key : String) :
    execute (delete key) db = (.ok (!(db.setAt key).isEmpty), db.replace key .empty) := by
  unfold delete
  rw [execute_bind_ok (execute_readSets healthy.present),
    execute_bind_ok (execute_checkGuard_healthy healthy _)]
  rfl

theorem execute_clear (healthy : db.Healthy) (category : String) :
    execute (Classification.clear (setKeys category)) db =
      (.ok (!(db.pair category .hit).isEmpty || !(db.pair category .passthrough).isEmpty),
        (db.write (.clear category .hit)).write (.clear category .passthrough)) := by
  have other : (db.replace (sideKey category .hit) .empty).setAt (sideKey category .passthrough) =
      db.pair category .passthrough := by
    have different : sideKey category .passthrough ≠ sideKey category .hit :=
      (Category.hitKey_ne_passthroughKey _ _).symm
    rw [setAt_replace, if_neg different]
    rfl
  have first : execute (delete (setKeys category).hit) db = _ :=
    execute_delete healthy (sideKey category .hit)
  have second : execute (delete (setKeys category).passthrough)
      (db.replace (sideKey category .hit) .empty) = _ :=
    execute_delete (healthy.replace _ _) (sideKey category .passthrough)
  unfold Classification.clear
  rw [execute_bind_ok first, execute_bind_ok second, other]
  rfl

theorem pair_clears (db : Database) (category : String) (side : Side) :
    ((db.write (.clear category .hit)).write (.clear category .passthrough)).pair category side =
      .empty := by
  have own : ∀ (now : Database) (cleared : Side),
      (now.write (.clear category cleared)).pair category = (now.pair category).set cleared .empty :=
    fun now cleared => pair_write_same now (.clear category cleared)
  rw [own, own]
  cases side <;> rfl

theorem checkGuard_kept (names : List String) (db : Database) :
    (execute (checkGuard names) db).2 = db := by
  rw [execute_checkGuard_eq]
  split <;> rfl

/-- A deletion that has answered has deleted the set. -/
theorem delete_done {key : String} {had : Bool} (done : (execute (delete key) db).1 = .ok had) :
    (execute (delete key) db).2 = db.replace key .empty := by
  unfold delete at done ⊢
  by_cases present : db.sets.isSome = true
  · rw [execute_bind_ok (execute_readSets present)] at done ⊢
    obtain ⟨_, after, guard, rest⟩ := execute_bind_done done
    have kept := checkGuard_kept ((db.sets.getD .empty).get key).members db
    rw [guard] at kept
    rw [rest, show after = db from kept]
    rfl
  · obtain ⟨_, _, read, -⟩ := execute_bind_done done
    rw [execute_readSets_missing present] at read
    cases read

/-- **Sets that have been cleared are empty.** -/
theorem clear_done {had : Bool}
    (done : (execute (Classification.clear (setKeys category)) db).1 = .ok had) (side : Side) :
    (execute (Classification.clear (setKeys category)) db).2.pair category side = .empty := by
  unfold Classification.clear at done ⊢
  obtain ⟨hit, middle, first, next⟩ := execute_bind_done done
  rw [next] at done ⊢
  obtain ⟨passthrough, after, second, last⟩ := execute_bind_done done
  have hits : middle = db.write (.clear category .hit) := by
    have cleared := delete_done (congrArg Prod.fst first)
    rwa [first] at cleared
  have passthroughs : after = middle.write (.clear category .passthrough) := by
    have cleared := delete_done (congrArg Prod.fst second)
    rwa [second] at cleared
  rw [last, passthroughs, hits]
  exact pair_clears db category side

end Database

end CategoryFilter
