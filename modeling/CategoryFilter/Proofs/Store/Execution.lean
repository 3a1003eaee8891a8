/-
**What an action on the sorted sets answers, and the database it leaves.**

`execute` runs an action. The sets are seen through `setAt`, and `replace` is the only change that an
action makes to them. A database `Accepts` a name if its table is there and no row of the name is
guarded. An action on an accepted name has its whole effect, one on a refused name none, and this holds
as well of the move of a name from one set to another (`execute_add`, `execute_add_refused`). A `Healthy`
database accepts every name.
-/

import CategoryFilter.Proofs.Ranks
import CategoryFilter.Store.Classification

namespace CategoryFilter.Database

variable {α β : Type} {db after : Database} {key other name : String}

/-! ### Running an action -/

/-- The answer of an action and the database it leaves. -/
def execute (action : Action α) (db : Database) : Except StorageError α × Database :=
  action.run.run db

theorem execute_pure (x : α) (db : Database) : execute (pure x : Action α) db = (.ok x, db) := rfl

theorem execute_bind (action : Action α) (next : α → Action β) (db : Database) :
    execute (action >>= next) db =
      match execute action db with
      | (.ok x, after) => execute (next x) after
      | (.error cause, after) => (.error cause, after) := by
  show (match action.run.run db with | (x, after) => ExceptT.bindCont next x after) = _
  unfold execute
  rcases action.run.run db with ⟨_ | _, _⟩ <;> rfl

theorem execute_bind_ok {action : Action α} {next : α → Action β} {x : α}
    (done : execute action db = (.ok x, after)) :
    execute (action >>= next) db = execute (next x) after := by
  rw [execute_bind, done]

theorem execute_bind_error {action : Action α} {next : α → Action β} {cause : StorageError}
    (failed : execute action db = (.error cause, after)) :
    execute (action >>= next) db = (.error cause, after) := by
  rw [execute_bind, failed]

/-- An action of two parts answers only if its first part does. -/
theorem execute_bind_done {action : Action α} {next : α → Action β} {y : β}
    (done : (execute (action >>= next) db).1 = .ok y) :
    ∃ x after, execute action db = (.ok x, after) ∧
      execute (action >>= next) db = execute (next x) after := by
  rcases step : execute action db with ⟨_ | x, after⟩
  · rw [execute_bind_error step] at done
    cases done
  · exact ⟨x, after, rfl, execute_bind_ok step⟩

theorem execute_map_snd (action : Action α) (f : α → β) (db : Database) :
    (execute (action >>= fun x => pure (f x)) db).2 = (execute action db).2 := by
  rcases step : execute action db with ⟨_ | x, after⟩
  · rw [execute_bind_error step]
  · rw [execute_bind_ok step, execute_pure]

/-! ### The sets of a database -/

/-- The set under a key; empty as well if the table is missing. -/
def setAt (db : Database) (key : String) : SortedSet :=
  (db.sets.getD .empty).get key

/-- No set of the database has more members than a limit. -/
def HoldsAtMost (db : Database) (limit : Nat) : Prop :=
  ∀ held ∈ (db.sets.getD .empty).keyed, held.2.size ≤ limit

instance (db : Database) (limit : Nat) : Decidable (db.HoldsAtMost limit) :=
  inferInstanceAs (Decidable (∀ held ∈ (db.sets.getD .empty).keyed, held.2.size ≤ limit))

theorem size_setAt_le {db : Database} {limit : Nat} (small : db.HoldsAtMost limit) (key : String) :
    (db.setAt key).size ≤ limit := by
  unfold setAt Sets.get
  cases found : (db.sets.getD .empty).keyed.lookup key with
  | none => exact Nat.zero_le _
  | some set =>
    obtain ⟨before, after, split, -⟩ := List.lookup_eq_some_iff.mp found
    exact small (key, set) (by simp [split])

/-- The database with another set under a key. -/
def replace (db : Database) (key : String) (set : SortedSet) : Database :=
  { db with sets := some ((db.sets.getD .empty).update key set) }

theorem setAt_replace (db : Database) (key other : String) (set : SortedSet) :
    (db.replace key set).setAt other = if other = key then set else db.setAt other := by
  by_cases same : other = key
  · subst same
    rw [if_pos rfl]
    exact Sets.get_update_self _ _ _
  · rw [if_neg same]
    exact Sets.get_update_other _ _ same

/-- The table of sets is there and no row of a name is guarded. -/
structure Accepts (db : Database) (name : String) : Prop where
  present : db.sets.isSome = true
  unguarded : db.guarded.contains name = false

/-- The table of sets is there and nothing is guarded. -/
structure Healthy (db : Database) : Prop where
  present : db.sets.isSome = true
  unguarded : db.guarded = []

theorem Healthy.accepts (healthy : db.Healthy) (name : String) : db.Accepts name :=
  ⟨healthy.present, by rw [healthy.unguarded]; rfl⟩

theorem Healthy.replace (healthy : db.Healthy) (key : String) (set : SortedSet) :
    (db.replace key set).Healthy :=
  ⟨rfl, healthy.unguarded⟩

theorem Accepts.replace (accepted : db.Accepts name) (key : String) (set : SortedSet) :
    (db.replace key set).Accepts name :=
  ⟨rfl, accepted.unguarded⟩

/-- The database without a name in the set under a key. -/
def discard (db : Database) (key name : String) : Database :=
  if (db.setAt key).contains name then db.replace key ((db.setAt key).erase name) else db

theorem setAt_discard (db : Database) (key other name : String) :
    (db.discard key name).setAt other =
      if other = key then (db.setAt other).erase name else db.setAt other := by
  unfold discard
  by_cases same : other = key
  · subst same
    rw [if_pos rfl]
    split
    · rw [setAt_replace, if_pos rfl]
    · next absent => rw [SortedSet.erase_of_not_contains (Bool.eq_false_iff.mpr absent)]
  · rw [if_neg same]
    split
    · rw [setAt_replace, if_neg same]
    · rfl

@[simp] theorem guarded_discard (db : Database) (key name : String) :
    (db.discard key name).guarded = db.guarded := by
  unfold discard
  split <;> rfl

theorem sets_discard (present : db.sets.isSome = true) (key name : String) :
    (db.discard key name).sets.isSome = true := by
  unfold discard
  split
  · rfl
  · exact present

theorem Accepts.discard (accepted : db.Accepts name) (key other : String) :
    (db.discard key other).Accepts name :=
  ⟨sets_discard accepted.present key other, by rw [guarded_discard, accepted.unguarded]⟩

theorem guarded_of_refused (present : db.sets.isSome = true) (refused : ¬ db.Accepts name) :
    db.guarded.contains name = true := by
  by_contra free
  exact refused ⟨present, Bool.eq_false_iff.mpr free⟩

/-! ### The steps of an action -/

theorem execute_readSets (present : db.sets.isSome = true) :
    execute readSets db = (.ok (db.sets.getD .empty), db) := by
  obtain ⟨version, sets, settings, guarded⟩ := db
  cases sets with
  | none => cases present
  | some sets => rfl

theorem execute_readSets_missing (missing : ¬ db.sets.isSome = true) :
    execute readSets db = (.error .database, db) := by
  obtain ⟨version, sets, settings, guarded⟩ := db
  cases sets with
  | none => rfl
  | some sets => exact absurd rfl missing

/-- A check of some names fails if one of them is guarded, and changes nothing. -/
theorem execute_checkGuard_eq (names : List String) (db : Database) :
    execute (checkGuard names) db =
      if names.any db.guarded.contains then (.error .database, db) else (.ok (), db) := by
  show execute (if names.any db.guarded.contains then throw .database else pure ()) db = _
  split <;> rfl

theorem execute_checkGuard (free : db.guarded.contains name = false) :
    execute (checkGuard [name]) db = (.ok (), db) := by
  rw [execute_checkGuard_eq, List.any_cons, free]
  rfl

theorem execute_checkGuard_refused (held : db.guarded.contains name = true) :
    execute (checkGuard [name]) db = (.error .database, db) := by
  rw [execute_checkGuard_eq, List.any_cons, held]
  rfl

theorem execute_checkGuard_healthy (healthy : db.Healthy) (names : List String) :
    execute (checkGuard names) db = (.ok (), db) := by
  have free : ¬ names.any db.guarded.contains = true := by
    rw [healthy.unguarded]
    simp
  rw [execute_checkGuard_eq, if_neg free]

/-- What follows a check of some names happens if none of them is guarded. -/
theorem execute_checkGuard_then {next : Unit → Action α} (names : List String) (db : Database) :
    execute (checkGuard names >>= next) db =
      if names.any db.guarded.contains then (.error .database, db) else execute (next ()) db := by
  by_cases held : names.any db.guarded.contains = true
  · rw [if_pos held]
    exact execute_bind_error (by rw [execute_checkGuard_eq, if_pos held])
  · rw [if_neg held]
    exact execute_bind_ok (by rw [execute_checkGuard_eq, if_neg held])

/-- What follows a check of several names happens as a whole or not at all. -/
theorem execute_checkGuard_cases {next : Unit → Action α} (names : List String)
    (effect : (execute (next ()) db).2 = after) :
    (execute (checkGuard names >>= next) db).2 = db ∨
      (execute (checkGuard names >>= next) db).2 = after := by
  rw [execute_checkGuard_then]
  split
  · exact Or.inl rfl
  · exact Or.inr effect

/-! ### Reading -/

/-- An action that only looks at the table leaves the database as it is. -/
theorem execute_reading (look : Sets → α) (db : Database) :
    (execute (readSets >>= fun sets => pure (look sets)) db).2 = db := by
  rw [execute_map_snd]
  by_cases present : db.sets.isSome = true
  · rw [execute_readSets present]
  · rw [execute_readSets_missing present]

theorem execute_score? (present : db.sets.isSome = true) :
    execute (score? key name) db = (.ok ((db.setAt key).score? name), db) :=
  execute_bind_ok (execute_readSets present)

theorem execute_size (present : db.sets.isSome = true) :
    execute (size key) db = (.ok (db.setAt key).size, db) :=
  execute_bind_ok (execute_readSets present)

theorem execute_members (present : db.sets.isSome = true) :
    execute (members key) db = (.ok (db.setAt key).members, db) :=
  execute_bind_ok (execute_readSets present)

/-! ### Writing one name -/

theorem execute_insert (accepted : db.Accepts name) (score : Score) :
    execute (insert key score name) db =
      (.ok (!(db.setAt key).contains name), db.replace key ((db.setAt key).insert name score)) := by
  unfold insert
  rw [execute_bind_ok (execute_readSets accepted.present),
    execute_bind_ok (execute_checkGuard accepted.unguarded)]
  rfl

theorem execute_insert_refused (refused : ¬ db.Accepts name) (score : Score) :
    execute (insert key score name) db = (.error .database, db) := by
  unfold insert
  by_cases present : db.sets.isSome = true
  · rw [execute_bind_ok (execute_readSets present)]
    exact execute_bind_error (execute_checkGuard_refused (guarded_of_refused present refused))
  · exact execute_bind_error (execute_readSets_missing present)

theorem execute_erase (accepted : db.Accepts name) :
    execute (erase key name) db = (.ok ((db.setAt key).contains name), db.discard key name) := by
  unfold erase discard
  rw [execute_bind_ok (execute_readSets accepted.present)]
  show execute (if (db.setAt key).contains name then _ else _) db = _
  split
  · next held =>
    rw [execute_bind_ok (execute_checkGuard accepted.unguarded), held]
    rfl
  · next absent =>
    rw [Bool.eq_false_iff.mpr absent]
    rfl

/-- A refused removal changes nothing: it fails, or the name was not there. -/
theorem execute_erase_refused (refused : ¬ db.Accepts name) :
    (execute (erase key name) db).2 = db := by
  unfold erase
  by_cases present : db.sets.isSome = true
  · rw [execute_bind_ok (execute_readSets present)]
    show (execute (if (db.setAt key).contains name then _ else _) db).2 = _
    split
    · rw [execute_bind_error (execute_checkGuard_refused (guarded_of_refused present refused))]
    · rfl
  · rw [execute_bind_error (execute_readSets_missing present)]

/-! ### Adding a name to one of two sets -/

/-- The action of adding a name to a set, after its removal from another. -/
theorem execute_add (accepted : db.Accepts name) (different : key ≠ other) (score : Score) :
    execute (do
      let removed ← erase other name
      let added ← insert key score name
      return added || removed) db =
      (.ok (!(db.setAt key).contains name || (db.setAt other).contains name),
        (db.discard other name).replace key ((db.setAt key).insert name score)) := by
  have kept : (db.discard other name).setAt key = db.setAt key := by
    rw [setAt_discard, if_neg different]
  rw [execute_bind_ok (execute_erase accepted),
    execute_bind_ok (execute_insert (accepted.discard other name) score), kept]
  rfl

/-- A refused name is neither removed from the one set nor added to the other. -/
theorem execute_add_refused (refused : ¬ db.Accepts name) (score : Score) :
    (execute (do
      let removed ← erase other name
      let added ← insert key score name
      return added || removed) db).2 = db := by
  have kept : (execute (erase other name) db).2 = db := execute_erase_refused refused
  rcases step : execute (erase other name) db with ⟨_ | removed, after⟩
  · rw [execute_bind_error step]
    rwa [step] at kept
  · rw [step] at kept
    cases kept
    rw [execute_bind_ok step, execute_bind_error (execute_insert_refused refused score)]

/-! ### Cutting and deleting a set -/

/-- A removal by rank has its effect on the set or none. -/
theorem execute_removeRanks_cases (db : Database) (key : String) (start stop : Int64) :
    (execute (removeRanks key start stop) db).2 = db ∨
      (execute (removeRanks key start stop) db).2 =
        db.replace key ((db.setAt key).removeRanks start stop) := by
  unfold removeRanks
  by_cases present : db.sets.isSome = true
  · rw [execute_bind_ok (execute_readSets present)]
    exact execute_checkGuard_cases _ rfl
  · rw [execute_bind_error (execute_readSets_missing present)]
    exact Or.inl rfl

theorem execute_removeRanks (healthy : db.Healthy) (start stop : Int64) :
    execute (removeRanks key start stop) db =
      (.ok ((db.setAt key).ranks start stop).length,
        db.replace key ((db.setAt key).removeRanks start stop)) := by
  unfold removeRanks
  rw [execute_bind_ok (execute_readSets healthy.present),
    execute_bind_ok (execute_checkGuard_healthy healthy _)]
  rfl

/-- The database with a set cut to its newest entries. -/
def cutTo (db : Database) (key : String) (limit : Nat) : Database :=
  if (db.setAt key).size ≤ limit then db else db.replace key ((db.setAt key).newest limit)

theorem cutTo_of_fits {limit : Nat} (fits : (db.setAt key).size ≤ limit) : db.cutTo key limit = db :=
  if_pos fits

theorem setAt_cutTo (db : Database) (key other : String) (limit : Nat) :
    (db.cutTo key limit).setAt other =
      if other = key then (db.setAt other).newest limit else db.setAt other := by
  unfold cutTo
  split
  · next fits =>
    split
    · next same => rw [same, SortedSet.newest_of_size_le fits]
    · rfl
  · rw [setAt_replace]
    split
    · next same => rw [same]
    · rfl

theorem Healthy.cutTo (healthy : db.Healthy) (key : String) (limit : Nat) :
    (db.cutTo key limit).Healthy := by
  unfold Database.cutTo
  split
  · exact healthy
  · exact healthy.replace _ _

/-- A set within its limit is left alone by a cut, however large it is. -/
theorem execute_trimSet_fits (present : db.sets.isSome = true) {limit : Nat}
    (fits : (db.setAt key).size ≤ limit) :
    execute (Classification.trimSet key limit) db = (.ok 0, db) := by
  unfold Classification.trimSet
  rw [execute_bind_ok (execute_size present), if_pos fits]
  rfl

/-- Cutting a set removes its lowest ranks, if there are more entries than the limit allows. -/
theorem execute_trimSet (healthy : db.Healthy) (countable : (db.setAt key).size < SortedSet.countBound)
    (limit : Nat) :
    execute (Classification.trimSet key limit) db =
      (.ok ((db.setAt key).size - limit), db.cutTo key limit) := by
  by_cases fits : (db.setAt key).size ≤ limit
  · rw [execute_trimSet_fits healthy.present fits, cutTo_of_fits fits, Nat.sub_eq_zero_of_le fits]
  · have positive : 0 < (db.setAt key).size - limit := by omega
    have inside : (db.setAt key).size - limit ≤ (db.setAt key).size := by omega
    unfold Classification.trimSet cutTo
    rw [execute_bind_ok (execute_size healthy.present), if_neg fits, if_neg fits,
      execute_removeRanks healthy]
    refine Prod.ext (congrArg Except.ok ?_) (congrArg (db.replace _) ?_)
    · exact SortedSet.length_ranks_lowest positive inside countable
    · exact SortedSet.removeRanks_lowest positive inside countable

/-- A cut of two sets leaves the newest entries of each. -/
theorem execute_trim (healthy : db.Healthy) (keys : Category.SetKeys)
    (different : keys.hit ≠ keys.passthrough)
    (hits : (db.setAt keys.hit).size < SortedSet.countBound)
    (passthroughs : (db.setAt keys.passthrough).size < SortedSet.countBound) (limit : Nat) :
    execute (Classification.trim keys limit) db =
      (.ok ((db.setAt keys.hit).size - limit + ((db.setAt keys.passthrough).size - limit)),
        (db.cutTo keys.hit limit).cutTo keys.passthrough limit) := by
  have other : (db.cutTo keys.hit limit).setAt keys.passthrough = db.setAt keys.passthrough := by
    rw [setAt_cutTo, if_neg different.symm]
  have second := execute_trimSet (healthy.cutTo keys.hit limit) (other ▸ passthroughs) limit
  unfold Classification.trim
  rw [execute_bind_ok (execute_trimSet healthy hits limit), execute_bind_ok second, other]
  rfl

/-- Two sets within the limit are left alone. -/
theorem execute_trim_fits (present : db.sets.isSome = true) (keys : Category.SetKeys) {limit : Nat}
    (hits : (db.setAt keys.hit).size ≤ limit) (passthroughs : (db.setAt keys.passthrough).size ≤ limit) :
    execute (Classification.trim keys limit) db = (.ok 0, db) := by
  unfold Classification.trim
  rw [execute_bind_ok (execute_trimSet_fits present hits),
    execute_bind_ok (execute_trimSet_fits present passthroughs)]
  rfl

theorem execute_delete_cases (db : Database) (key : String) :
    (execute (delete key) db).2 = db ∨ (execute (delete key) db).2 = db.replace key .empty := by
  unfold delete
  by_cases present : db.sets.isSome = true
  · rw [execute_bind_ok (execute_readSets present)]
    exact execute_checkGuard_cases _ rfl
  · rw [execute_bind_error (execute_readSets_missing present)]
    exact Or.inl rfl

end CategoryFilter.Database
