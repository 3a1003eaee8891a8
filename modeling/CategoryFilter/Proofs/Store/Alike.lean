/-
**Two databases that are alike for a category.**

Two databases are `Alike` for a category if its three sets are the same in both, both have the table or both
lack it, and they guard the same of the names that the category can meet. All else may differ.

* `Blind`: an action that gives the same answer in alike databases and leaves them alike. It is closed under
  sequences (`Blind.bind`).
* `blind_changing`: the shape of the statements that write, a check of the guards before a change of one
  set.
* `blind_addTo`, `blind_removeFrom`, `blind_feed`, `blind_trim`: the actions on the sets of the category.
-/

import CategoryFilter.Proofs.Ranks
import CategoryFilter.Proofs.Store.Dynamic

namespace CategoryFilter.Database

open Category (sideKey setKeys)

variable {α β : Type} {db other : Database} {category key name : String} {which : Side}
  {named : String → Prop}

/-- Two databases look the same to a category that meets certain names only. -/
structure Alike (category : String) (named : String → Prop) (db other : Database) : Prop where
  present : other.sets.isSome = db.sets.isSome
  sets : SameSets category db other
  guards : ∀ name, named name → other.guarded.contains name = db.guarded.contains name
  /-- The members of the category are among the names. -/
  inside : ∀ side name, (db.pair category side).contains name = true → named name

namespace Alike

theorem setAt_side (alike : Alike category named db other) (side : Side) :
    other.setAt (sideKey category side) = db.setAt (sideKey category side) :=
  congrFun alike.sets.pair side

/-- The same change of a set of the pair keeps databases alike. -/
theorem replace (alike : Alike category named db other) {set : SortedSet}
    (inside : ∀ name, set.contains name = true → named name) (side : Side) :
    Alike category named (db.replace (sideKey category side) set)
      (other.replace (sideKey category side) set) := by
  refine ⟨rfl, ⟨?_, ?_⟩, alike.guards, fun which name held => ?_⟩
  · rw [pair_replace, pair_replace, if_pos rfl, if_pos rfl, alike.sets.pair]
  · rw [dynamic_replace, dynamic_replace, alike.sets.dynamic]
  · rw [pair_replace, if_pos rfl] at held
    unfold SetPair.set at held
    split at held
    · exact inside name held
    · exact alike.inside which name held

/-- So does the same change of the enforcement data. -/
theorem replace_dynamic (alike : Alike category named db other) (set : SortedSet) :
    Alike category named (db.replace (Category.dynamicKey category) set)
      (other.replace (Category.dynamicKey category) set) := by
  refine ⟨rfl, ⟨?_, ?_⟩, alike.guards, fun which name held => ?_⟩
  · rw [pair_replace_dynamic, pair_replace_dynamic, alike.sets.pair]
  · unfold dynamic
    rw [setAt_replace, setAt_replace, if_pos rfl, if_pos rfl]
  · rw [pair_replace_dynamic] at held
    exact alike.inside which name held

end Alike

/-! ### Blind actions -/

/-- An action cannot tell alike databases apart, and it leaves them alike. -/
def Blind (category : String) (named : String → Prop) (action : Action α) : Prop :=
  ∀ db other, Alike category named db other →
    (execute action other).1 = (execute action db).1 ∧
      Alike category named (execute action db).2 (execute action other).2

namespace Blind

theorem pure (x : α) : Blind category named (Pure.pure x : Action α) :=
  fun _ _ alike => ⟨rfl, alike⟩

theorem bind {action : Action α} {next : α → Action β} (first : Blind category named action)
    (second : ∀ x, Blind category named (next x)) : Blind category named (action >>= next) := by
  intro db other alike
  obtain ⟨same, alike⟩ := first db other alike
  rcases one : execute action db with ⟨_ | x, left⟩ <;> rcases two : execute action other with ⟨_ | y, right⟩
  all_goals rw [one, two] at same alike; cases same
  · rw [execute_bind_error one, execute_bind_error two]
    exact ⟨rfl, alike⟩
  · rw [execute_bind_ok one, execute_bind_ok two]
    exact second x left right alike

end Blind

/-- Before its table is read an action has done nothing, and without it nothing follows. -/
theorem blind_reading {action : Sets → Action α}
    (goes : ∀ db other, Alike category named db other →
      (execute (action (other.sets.getD .empty)) other).1 = (execute (action (db.sets.getD .empty)) db).1 ∧
        Alike category named (execute (action (db.sets.getD .empty)) db).2
          (execute (action (other.sets.getD .empty)) other).2) :
    Blind category named (readSets >>= action) := by
  intro db other alike
  by_cases present : db.sets.isSome = true
  · rw [execute_bind_ok (execute_readSets present),
      execute_bind_ok (execute_readSets (alike.present.trans present))]
    exact goes db other alike
  · have missing : ¬ other.sets.isSome = true := by rwa [alike.present]
    rw [execute_bind_error (execute_readSets_missing present),
      execute_bind_error (execute_readSets_missing missing)]
    exact ⟨rfl, alike⟩

/-- A check of names that the category meets, before something that alike databases do alike. -/
theorem blind_checked {one two : Unit → Action α} {names : List String}
    (alike : Alike category named db other) (met : ∀ name ∈ names, named name)
    (free : (execute (two ()) other).1 = (execute (one ()) db).1 ∧
      Alike category named (execute (one ()) db).2 (execute (two ()) other).2) :
    (execute (checkGuard names >>= two) other).1 = (execute (checkGuard names >>= one) db).1 ∧
      Alike category named (execute (checkGuard names >>= one) db).2
        (execute (checkGuard names >>= two) other).2 := by
  have guards : names.any other.guarded.contains = names.any db.guarded.contains := by
    rw [Bool.eq_iff_iff, List.any_eq_true, List.any_eq_true]
    exact exists_congr fun name => and_congr_right fun listed => by rw [alike.guards name (met name listed)]
  rw [execute_checkGuard_then, execute_checkGuard_then, guards]
  split
  · exact ⟨rfl, alike⟩
  · exact free

/-- **A statement that changes a set of the category** is blind: it checks names that the category meets and
writes the same set into alike databases. -/
theorem blind_changing (names : SortedSet → List String) (change : SortedSet → SortedSet)
    (answer : SortedSet → α)
    (same : ∀ db other, Alike category named db other → other.setAt key = db.setAt key)
    (met : ∀ db other, Alike category named db other → ∀ name ∈ names (db.setAt key), named name)
    (kept : ∀ db other, Alike category named db other →
      Alike category named (db.replace key (change (db.setAt key)))
        (other.replace key (change (db.setAt key)))) :
    Blind category named (do
      let sets ← readSets
      checkGuard (names (sets.get key))
      writeSets (sets.update key (change (sets.get key)))
      return answer (sets.get key)) := by
  refine blind_reading fun db other alike => ?_
  have equal : (other.sets.getD .empty).get key = (db.sets.getD .empty).get key := same db other alike
  rw [equal]
  exact blind_checked alike (met db other alike) ⟨rfl, kept db other alike⟩

/-! ### The sets of a category -/

variable (category named) in
theorem blind_size (side : Side) : Blind category named (size (sideKey category side)) := by
  refine blind_reading fun db other alike => ⟨?_, alike⟩
  exact congrArg (fun set : SortedSet => Except.ok set.size) (alike.setAt_side side)

theorem blind_insert (met : named name) (side : Side) (score : Score) :
    Blind category named (insert (sideKey category side) score name) := by
  refine blind_changing (fun _ => [name]) (·.insert name score) (fun set => !set.contains name)
    (fun db other alike => alike.setAt_side side) ?_ ?_
  · intro db other alike entry listed
    rwa [List.mem_singleton.mp listed]
  · refine fun db other alike => alike.replace (fun entry held => ?_) side
    rw [SortedSet.contains_insert] at held
    rcases Bool.or_eq_true_iff.mp held with new | old
    · rwa [beq_iff_eq.mp new]
    · exact alike.inside side entry old

theorem blind_feed (met : named name) (score : Score) :
    Blind category named (insert (Category.dynamicKey category) score name) := by
  refine blind_changing (fun _ => [name]) (·.insert name score) (fun set => !set.contains name)
    (fun db other alike => alike.sets.dynamic) ?_ ?_
  · intro db other alike entry listed
    rwa [List.mem_singleton.mp listed]
  · exact fun db other alike => alike.replace_dynamic _

/-- Only a member is checked and written, and members are met. -/
theorem blind_erase (side : Side) (name : String) :
    Blind category named (erase (sideKey category side) name) := by
  refine blind_reading fun db other alike => ?_
  have equal : (other.sets.getD .empty).get (sideKey category side) =
      (db.sets.getD .empty).get (sideKey category side) := alike.setAt_side side
  rw [equal]
  split
  · next held =>
    refine blind_checked alike (fun entry listed => ?_) ⟨rfl, ?_⟩
    · rw [List.mem_singleton.mp listed]
      exact alike.inside side name held
    · refine alike.replace (fun entry kept => ?_) side
      exact alike.inside side entry (SortedSet.erase_within.contains kept)
  · exact ⟨rfl, alike⟩

theorem blind_removeRanks (side : Side) (start stop : Int64) :
    Blind category named (removeRanks (sideKey category side) start stop) := by
  refine blind_changing (fun set => (set.ranks start stop).map Entry.member)
    (·.removeRanks start stop) (fun set => (set.ranks start stop).length)
    (fun db other alike => alike.setAt_side side) ?_ ?_
  · intro db other alike entry listed
    refine alike.inside side entry (SortedSet.contains_iff.mpr ?_)
    exact ((SortedSet.ranks_sublist start stop).map Entry.member).subset listed
  · refine fun db other alike => alike.replace (fun entry kept => ?_) side
    exact alike.inside side entry ((SortedSet.removeRanks_within start stop).contains kept)

theorem blind_addTo {m : Member} (met : named m.domain) (score : Score) :
    Blind category named (addTo category m score) := by
  obtain ⟨name, side⟩ := m
  cases side with
  | hit =>
    exact (blind_erase .passthrough name).bind fun _ => (blind_insert met .hit score).bind fun _ => .pure _
  | passthrough =>
    exact (blind_erase .hit name).bind fun _ => (blind_insert met .passthrough score).bind fun _ => .pure _

theorem blind_removeFrom (m : Member) : Blind category named (removeFrom category m) := by
  obtain ⟨name, side⟩ := m
  cases side with
  | hit => exact blind_erase .hit name
  | passthrough => exact blind_erase .passthrough name

variable (category named) in
theorem blind_trim (limit : Nat) :
    Blind category named (Classification.trim (setKeys category) limit) := by
  have cut : ∀ side, Blind category named (Classification.trimSet (sideKey category side) limit) := by
    refine fun side => (blind_size category named side).bind fun size => ?_
    split
    · exact .pure 0
    · exact blind_removeRanks side _ _
  exact (cut .hit).bind fun _ => (cut .passthrough).bind fun _ => .pure _

/-! ### What writes keep -/

variable {may : Database → Write → Prop} {after : Database}

theorem Trail.guarded_eq (trail : Trail may db after) : after.guarded = db.guarded :=
  trail.preserves (P := fun now => now.guarded = db.guarded)
    (fun _ w _ held => (guarded_write _ w).trans held) rfl

theorem Trail.present (trail : Trail may db after) (there : db.sets.isSome = true) :
    after.sets.isSome = true :=
  trail.preserves (P := fun now => now.sets.isSome = true) (fun _ w _ held => sets_write held w) there

end CategoryFilter.Database
