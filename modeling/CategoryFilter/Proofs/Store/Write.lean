/-
**Every change of the sets is one of five writes.**

A `Write` records a name in a set of a category, removes it, cuts or clears a set, or feeds a pattern
into enforcement:

* `pair_write`: a write of a category changes its pair as `SetPair.after` says, and no other pair.
* `SetPair.exclusive_after`: no write ever makes a name a hit and a passthrough at once.
* `execute_addTo`, `execute_removeFrom`: an accepted action of the store is its write; a refused one is
  none. `trail_trim`, `trail_clear`: cutting and clearing both sets may stop between the two.
* `Trail`: what some writes leave, each allowed where it happens.
-/

import CategoryFilter.Proofs.Store.Pair
import Mathlib.Logic.Relation

namespace CategoryFilter

/-- A single change of the sets of a category. -/
inductive Write where
  /-- A name enters one set, or gets a new score in it, and leaves the other. -/
  | record (category : String) (m : Member) (score : Score)
  /-- A name leaves a set. -/
  | remove (category : String) (m : Member)
  /-- The entries between two ranks leave a set. -/
  | cut (category : String) (side : Side) (start stop : Int64)
  /-- All names leave a set. -/
  | clear (category : String) (side : Side)
  /-- A pattern enters the enforcement data. -/
  | feed (category pattern : String) (score : Score)

/-- The category that a write is about. -/
def Write.category : Write → String
  | .record category _ _ | .remove category _ | .cut category _ _ _ | .clear category _
  | .feed category _ _ => category

/-- Whether a write adds no entry to a set of its pair. -/
def Write.Shrinks : Write → Prop
  | .record _ _ _ => False
  | _ => True

namespace SetPair

variable {p : SetPair}

/-- The pair after a write of its category. -/
def after (p : SetPair) : Write → SetPair
  | .record _ m score => p.record m score
  | .remove _ m => p.remove m
  | .cut _ side start stop => p.set side ((p side).removeRanks start stop)
  | .clear _ side => p.set side .empty
  | .feed _ _ _ => p

theorem after_within {w : Write} (shrinks : w.Shrinks) (side : Side) :
    (p.after w side).Within (p side) := by
  cases w with
  | record category m score => cases shrinks
  | remove category m => exact remove_within side
  | cut category other start stop => exact set_within (SortedSet.removeRanks_within _ _) side
  | clear category other => exact set_within SortedSet.empty_within side
  | feed category pattern score => exact SortedSet.Within.refl _

/-- **No write makes a name a hit and a passthrough at once.** -/
theorem exclusive_after (held : p.Exclusive) (w : Write) : (p.after w).Exclusive := by
  cases w with
  | record category m score => exact exclusive_record held
  | _ => exact held.of_within (after_within trivial)

end SetPair

/-! ### Writes to a database -/

namespace Database

open Category (sideKey setKeys)

variable {db after : Database} {category name : String} {score : Score}

/-- The database after a write. -/
def write (db : Database) : Write → Database
  | .record category m score =>
    (db.discard (sideKey category m.side.opposite) m.domain).replace (sideKey category m.side)
      ((db.pair category m.side).insert m.domain score)
  | .remove category m => db.discard (sideKey category m.side) m.domain
  | .cut category side start stop =>
    db.replace (sideKey category side) ((db.pair category side).removeRanks start stop)
  | .clear category side => db.replace (sideKey category side) .empty
  | .feed category pattern score =>
    db.replace (Category.dynamicKey category)
      ((db.setAt (Category.dynamicKey category)).insert pattern score)

/-- A change of the set under one key of a category changes one side of its pair, and no other pair. -/
theorem pair_of_setAt {side : Side} (f : SortedSet → SortedSet) (changed : ∀ key,
      after.setAt key = if key = sideKey category side then f (db.setAt key) else db.setAt key)
    (other : String) :
    after.pair other =
      if category = other then (db.pair other).set side (f (db.pair other side)) else db.pair other := by
  funext which
  show after.setAt _ = _
  rw [changed]
  by_cases same : category = other
  · rw [if_pos same]
    subst same
    by_cases own : which = side
    · rw [if_pos (Category.sideKey_inj.mpr ⟨rfl, own⟩)]
      subst own
      exact (if_pos rfl).symm
    · rw [if_neg fun equal => own (Category.sideKey_inj.mp equal).2]
      exact (if_neg own).symm
  · rw [if_neg same, if_neg fun equal => same (Category.sideKey_inj.mp equal).1.symm]
    rfl

theorem pair_replace (db : Database) (category other : String) (side : Side) (set : SortedSet) :
    (db.replace (sideKey category side) set).pair other =
      if category = other then (db.pair other).set side set else db.pair other :=
  pair_of_setAt (fun _ => set) (fun key => setAt_replace db _ key set) other

theorem pair_discard (db : Database) (category other : String) (side : Side) (name : String) :
    (db.discard (sideKey category side) name).pair other =
      if category = other then (db.pair other).set side ((db.pair other side).erase name)
      else db.pair other :=
  pair_of_setAt (·.erase name) (fun key => setAt_discard db _ key name) other

theorem pair_replace_dynamic (db : Database) (category other : String) (set : SortedSet) :
    (db.replace (Category.dynamicKey category) set).pair other = db.pair other := by
  funext which
  show (db.replace _ set).setAt _ = _
  rw [setAt_replace, if_neg (Category.sideKey_ne_dynamicKey _ _ _)]
  rfl

/-- **What a write does to the pairs**: its own category's changes, all others stay. -/
theorem pair_write (db : Database) (w : Write) (other : String) :
    (db.write w).pair other =
      if w.category = other then (db.pair other).after w else db.pair other := by
  cases w with
  | record category m score =>
    show ((db.discard _ m.domain).replace _ _).pair other = _
    rw [pair_replace, pair_discard]
    by_cases same : category = other
    · rw [if_pos same, if_pos same]
      refine Eq.trans ?_ (if_pos same).symm
      subst same
      funext side
      show (if side = m.side then _ else if side = m.side.opposite then _ else _) = ite _ _ _
      by_cases own : side = m.side
      · rw [if_pos own, if_pos own, own]
      · have across : side = m.side.opposite := Side.eq_opposite_of_ne own
        rw [if_neg own, if_neg own, if_pos across, across]
    · rw [if_neg same, if_neg same]
      exact (if_neg same).symm
  | remove category m => exact pair_discard db category other m.side m.domain
  | cut category side start stop =>
    refine (pair_replace db category other side _).trans ?_
    by_cases same : category = other
    · subst same
      exact (if_pos rfl).trans (if_pos rfl).symm
    · exact (if_neg same).trans (if_neg same).symm
  | clear category side => exact pair_replace _ _ _ _ _
  | feed category pattern score =>
    refine (pair_replace_dynamic _ _ _ _).trans ?_
    exact (ite_self _).symm

theorem pair_write_same (db : Database) (w : Write) :
    (db.write w).pair w.category = (db.pair w.category).after w := by
  rw [pair_write, if_pos rfl]

theorem pair_record (db : Database) (category : String) (m : Member) (score : Score) :
    (db.write (.record category m score)).pair category = (db.pair category).record m score :=
  pair_write_same db (.record category m score)

theorem pair_remove (db : Database) (category : String) (m : Member) :
    (db.write (.remove category m)).pair category = (db.pair category).remove m :=
  pair_write_same db (.remove category m)

/-- Recording a name leaves the sets under all keys but those of its category's two sets. -/
theorem setAt_record {key : String} (m : Member) (score : Score)
    (other : ∀ side, key ≠ Category.sideKey category side) :
    (db.write (.record category m score)).setAt key = db.setAt key := by
  show ((db.discard _ m.domain).replace _ _).setAt key = _
  rw [setAt_replace, if_neg (other m.side), setAt_discard, if_neg (other m.side.opposite)]

/-- An empty database that gets some hits in one category has no name in two sets. -/
theorem exclusive_hits (bare : ∀ key, db.setAt key = .empty) (category : String) (hits : SortedSet)
    (other : String) : ((db.replace (Category.hitKey category) hits).pair other).Exclusive := by
  rintro name ⟨-, there⟩
  have none : (db.replace (Category.hitKey category) hits).pair other .passthrough = .empty := by
    show (db.replace _ _).setAt (Category.passthroughKey other) = _
    rw [setAt_replace, if_neg (Category.hitKey_ne_passthroughKey _ _).symm, bare]
  rw [none, SortedSet.contains_empty] at there
  cases there

theorem pair_write_other {w : Write} (different : w.category ≠ category) :
    (db.write w).pair category = db.pair category := by
  rw [pair_write, if_neg different]

@[simp] theorem guarded_write (db : Database) (w : Write) : (db.write w).guarded = db.guarded := by
  cases w with
  | record category m score => exact guarded_discard db _ m.domain
  | remove category m => exact guarded_discard db _ m.domain
  | _ => rfl

theorem sets_write (present : db.sets.isSome = true) (w : Write) :
    (db.write w).sets.isSome = true := by
  cases w with
  | remove category m => exact sets_discard present _ _
  | _ => rfl

theorem Accepts.write (accepted : db.Accepts name) (w : Write) : (db.write w).Accepts name :=
  ⟨sets_write accepted.present w, by rw [guarded_write, accepted.unguarded]⟩

theorem Healthy.write (healthy : db.Healthy) (w : Write) : (db.write w).Healthy :=
  ⟨sets_write healthy.present w, by rw [guarded_write, healthy.unguarded]⟩

/-! ### Actions of the store -/

/-- What an accepted addition changes of the memberships. -/
def gains (db : Database) (category : String) (m : Member) : Bool :=
  !(db.pair category m.side).contains m.domain || (db.pair category m.side.opposite).contains m.domain

/-- Adding a name to one of the sets of a category. -/
def addTo (category : String) (m : Member) (score : Score) : Action Bool :=
  match m.side with
  | .hit => Classification.addHit (setKeys category) m.domain score
  | .passthrough => Classification.addPassthrough (setKeys category) m.domain score

/-- Removing a name from one of the sets of a category. -/
def removeFrom (category : String) (m : Member) : Action Bool :=
  match m.side with
  | .hit => Classification.removeHit (setKeys category) m.domain
  | .passthrough => Classification.removePassthrough (setKeys category) m.domain

/-- An accepted addition is its write. -/
theorem execute_addTo {m : Member} (accepted : db.Accepts m.domain) (category : String)
    (score : Score) :
    execute (addTo category m score) db =
      (.ok (db.gains category m), db.write (.record category m score)) := by
  obtain ⟨name, side⟩ := m
  cases side
  · exact execute_add accepted (Category.hitKey_ne_passthroughKey _ _) score
  · exact execute_add accepted (Category.hitKey_ne_passthroughKey _ _).symm score

theorem execute_addTo_refused {m : Member} (refused : ¬ db.Accepts m.domain) (category : String)
    (score : Score) : (execute (addTo category m score) db).2 = db := by
  obtain ⟨name, side⟩ := m
  cases side
  · exact execute_add_refused refused score
  · exact execute_add_refused refused score

theorem execute_removeFrom {m : Member} (accepted : db.Accepts m.domain) (category : String) :
    execute (removeFrom category m) db =
      (.ok ((db.pair category m.side).contains m.domain), db.write (.remove category m)) := by
  obtain ⟨name, side⟩ := m
  cases side
  · exact execute_erase accepted
  · exact execute_erase accepted

theorem execute_removeFrom_refused {m : Member} (refused : ¬ db.Accepts m.domain)
    (category : String) : (execute (removeFrom category m) db).2 = db := by
  obtain ⟨name, side⟩ := m
  cases side
  · exact execute_erase_refused refused
  · exact execute_erase_refused refused

/-! ### Trails of writes -/

/-- What some writes leave, each of them allowed in the database that it meets. -/
def Trail (may : Database → Write → Prop) : Database → Database → Prop :=
  Relation.ReflTransGen fun before after => ∃ w, may before w ∧ after = before.write w

namespace Trail

variable {may wider : Database → Write → Prop} {middle : Database}

theorem refl (db : Database) : Trail may db db := Relation.ReflTransGen.refl

theorem trans (first : Trail may db middle) (second : Trail may middle after) : Trail may db after :=
  Relation.ReflTransGen.trans first second

theorem single {w : Write} (allowed : may db w) : Trail may db (db.write w) :=
  Relation.ReflTransGen.single ⟨w, allowed, rfl⟩

theorem of_eq (same : after = db) : Trail may db after := by
  rw [same]
  exact refl db

theorem mono (trail : Trail may db after) (wide : ∀ db w, may db w → wider db w) :
    Trail wider db after := by
  refine Relation.ReflTransGen.mono ?_ _ _ trail
  rintro before _ ⟨w, allowed, rfl⟩
  exact ⟨w, wide before w allowed, rfl⟩

/-- What every allowed write keeps, a trail keeps. -/
theorem preserves {P : Database → Prop} (trail : Trail may db after)
    (step : ∀ db w, may db w → P db → P (db.write w)) (held : P db) : P after := by
  induction trail with
  | refl => exact held
  | tail _ last ih =>
    obtain ⟨w, allowed, rfl⟩ := last
    exact step _ w allowed ih

theorem healthy (trail : Trail may db after) (healthy : db.Healthy) : after.Healthy :=
  trail.preserves (P := Healthy) (fun _ w _ held => held.write w) healthy

theorem exclusive (trail : Trail may db after) (held : (db.pair category).Exclusive) :
    (after.pair category).Exclusive := by
  refine trail.preserves (P := fun db => (db.pair category).Exclusive) (fun db w _ held => ?_) held
  rw [pair_write]
  split
  · exact SetPair.exclusive_after held w
  · exact held

/-- Writes of other categories leave a pair as it is. -/
theorem pair_eq (trail : Trail may db after)
    (elsewhere : ∀ db w, may db w → w.category ≠ category) : after.pair category = db.pair category :=
  trail.preserves (P := fun now => now.pair category = db.pair category)
    (fun _ _ allowed held => (pair_write_other (elsewhere _ _ allowed)).trans held) rfl

end Trail

variable {α β : Type} {may : Database → Write → Prop}

theorem trail_bind {action : Action α} {next : α → Action β}
    (first : Trail may db (execute action db).2)
    (second : ∀ x after, Trail may after (execute (next x) after).2) :
    Trail may db (execute (action >>= next) db).2 := by
  rcases step : execute action db with ⟨_ | x, after⟩
  · rw [execute_bind_error step]
    rwa [step] at first
  · rw [execute_bind_ok step]
    rw [step] at first
    exact first.trans (second x after)

theorem trail_size (db : Database) (key : String) : Trail may db (execute (size key) db).2 := by
  by_cases present : db.sets.isSome = true
  · rw [execute_size present]
    exact Trail.refl db
  · unfold size
    rw [execute_bind_error (execute_readSets_missing present)]
    exact Trail.refl db

/-- Cuts of the sets of a category. -/
def Cuts (category : String) (_ : Database) (w : Write) : Prop :=
  ∃ side start stop, w = .cut category side start stop

/-- Clearings of the sets of a category. -/
def Clears (category : String) (_ : Database) (w : Write) : Prop :=
  ∃ side, w = .clear category side

theorem trail_trimSet (db : Database) (category : String) (side : Side) (limit : Nat) :
    Trail (Cuts category) db
      (execute (Classification.trimSet (sideKey category side) limit) db).2 := by
  refine trail_bind (trail_size _ _) fun size after => ?_
  split
  · exact Trail.refl after
  · rcases execute_removeRanks_cases after (sideKey category side) 0
      (Int64.ofNat (size - limit) - 1) with same | cut
    · exact Trail.of_eq same
    · rw [cut]
      have allowed : Cuts category after
          (.cut category side 0 (Int64.ofNat (size - limit) - 1)) := ⟨side, _, _, rfl⟩
      exact Trail.single allowed

theorem trail_trim (db : Database) (category : String) (limit : Nat) :
    Trail (Cuts category) db (execute (Classification.trim (setKeys category) limit) db).2 :=
  trail_bind (trail_trimSet db category .hit limit) fun _ middle =>
    trail_bind (trail_trimSet middle category .passthrough limit) fun _ last => Trail.refl last

theorem trail_delete (db : Database) (category : String) (side : Side) :
    Trail (Clears category) db (execute (delete (sideKey category side)) db).2 := by
  rcases execute_delete_cases db (sideKey category side) with same | cleared
  · exact Trail.of_eq same
  · rw [cleared]
    have allowed : Clears category db (.clear category side) := ⟨side, rfl⟩
    exact Trail.single allowed

theorem trail_clear (db : Database) (category : String) :
    Trail (Clears category) db (execute (Classification.clear (setKeys category)) db).2 :=
  trail_bind (trail_delete db category .hit) fun _ middle =>
    trail_bind (trail_delete middle category .passthrough) fun _ last => Trail.refl last

theorem trail_addTo (db : Database) (category : String) (m : Member) (score : Score)
    (allowed : may db (.record category m score)) :
    Trail may db (execute (addTo category m score) db).2 := by
  by_cases accepted : db.Accepts m.domain
  · rw [execute_addTo accepted]
    exact Trail.single allowed
  · exact Trail.of_eq (execute_addTo_refused accepted category score)

theorem trail_removeFrom (db : Database) (category : String) (m : Member)
    (allowed : may db (.remove category m)) :
    Trail may db (execute (removeFrom category m) db).2 := by
  by_cases accepted : db.Accepts m.domain
  · rw [execute_removeFrom accepted]
    exact Trail.single allowed
  · exact Trail.of_eq (execute_removeFrom_refused accepted category)

/-- Feeding a pattern into enforcement is its write or none. -/
theorem trail_feed (db : Database) (category pattern : String) (score : Score)
    (allowed : may db (.feed category pattern score)) :
    Trail may db (execute (insert (Category.dynamicKey category) score pattern) db).2 := by
  by_cases accepted : db.Accepts pattern
  · rw [execute_insert accepted]
    exact Trail.single allowed
  · rw [execute_insert_refused accepted]
    exact Trail.refl db

/-! ### Cutting both sets -/

/-- Whether the database can count the members of a set. -/
def Countable (db : Database) (category : String) : Prop :=
  ∀ side, (db.pair category side).size < SortedSet.countBound

/-- The database with a set cut to its newest entries. -/
def keepNewest (db : Database) (category : String) (side : Side) (limit : Nat) : Database :=
  if (db.pair category side).size ≤ limit then db
  else db.replace (sideKey category side) ((db.pair category side).newest limit)

theorem keepNewest_eq (db : Database) (category : String) (side : Side) (limit : Nat) :
    db.keepNewest category side limit = db.cutTo (sideKey category side) limit := rfl

theorem pair_keepNewest (db : Database) (category : String) (side : Side) (limit : Nat) :
    (db.keepNewest category side limit).pair category =
      (db.pair category).set side ((db.pair category side).newest limit) := by
  rw [keepNewest_eq, pair_of_setAt (·.newest limit) fun key => setAt_cutTo db _ key limit, if_pos rfl]

/-- A cut of both sets of a category leaves the newest entries of each. -/
theorem pair_trim (healthy : db.Healthy) (countable : db.Countable category) (limit : Nat) :
    (execute (Classification.trim (setKeys category) limit) db).2.pair category =
      fun side => (db.pair category side).newest limit := by
  have cut : (execute (Classification.trim (setKeys category) limit) db).2 =
      (db.keepNewest category .hit limit).keepNewest category .passthrough limit :=
    congrArg Prod.snd (execute_trim healthy (setKeys category)
      (Category.hitKey_ne_passthroughKey _ _) (countable .hit) (countable .passthrough) limit)
  rw [cut, pair_keepNewest, pair_keepNewest]
  funext side
  cases side <;> rfl

end Database

end CategoryFilter
