/-
**What is done for one category writes to its sets only.**

A `Use` is an operation for one category: the examination of a result of its filter, the confirmation of some
of its candidates, its refresh or deactivation, a feed of its enforcement data, or an operation of the store
under its keys. Every write of it is the category's own (`use_trail`), so all sets of every other category
stay as they are (`sameSets_use`), whatever the services answer and the database refuses.
-/

import CategoryFilter.Proofs.Examiner.Run
import CategoryFilter.Proofs.Store.Dynamic

namespace CategoryFilter

open Category (setKeys)

/-- The category of a category's filter is the category. -/
theorem Category.eq_of_ofFilterUid? {category other : String}
    (named : ofFilterUid? (filterUid category) = some other) : other = category := by
  have letters : (filterUid category).toList = "category:".toList ++ category.toList :=
    String.toList_append
  unfold ofFilterUid? at named
  split at named
  · next c rest found =>
    have whole := List.isPrefixOf?_eq_some_iff_append_eq.mp found
    rw [letters] at whole
    rw [← Option.some.inj named, List.append_cancel_left whole]
    exact String.ofList_toList
  · cases named

namespace State

open Database (Trail SameSets execute)

variable {s : State} {may : Database → Write → Prop} {db : Database} {category : String}

/-- A write of a category. -/
def Own (category : String) (_ : Database) (w : Write) : Prop :=
  w.category = category

/-- An operation for one category. -/
inductive Use where
  /-- The examination of a result of its filter, the one at a place in an answer about a domain. -/
  | result (clock : Clock) (origin item : String) (status : MatchStatus) (place : Nat)
  | confirm (services : Services) (clock : Clock) (items : List Pending)
  | refresh (around : Surroundings)
  | deactivate
  | updateDomain (pattern : String) (now : Score)
  | isHit (name : String)
  | isPassthrough (name : String)
  | addHit (name : String) (score : Score)
  | addPassthrough (name : String) (score : Score)
  | removeHit (name : String)
  | removePassthrough (name : String)
  | hits
  | passthroughs
  | hitsSince (since : Score)
  | trim (limit : Nat)
  | clear

/-- The state after an operation for a category. -/
def use (s : State) (category : String) : Use → State
  | .result clock origin item status place =>
    (examineResult clock origin (s, 0) (⟨Category.filterUid category, item, status⟩, place)).1
  | .confirm services clock items =>
    (confirmGroup services clock (s, ⟨items.length, 0, [], 0, 0⟩) (category, items)).1
  | .refresh around => (s.refresh around category).1
  | .deactivate => (s.deactivate category).1
  | .updateDomain pattern now => (s.updateDomain category pattern now).1
  | .isHit name => (s.act (Classification.isHit (setKeys category) name)).1
  | .isPassthrough name => (s.act (Classification.isPassthrough (setKeys category) name)).1
  | .addHit name score => (s.act (Classification.addHit (setKeys category) name score)).1
  | .addPassthrough name score =>
    (s.act (Classification.addPassthrough (setKeys category) name score)).1
  | .removeHit name => (s.act (Classification.removeHit (setKeys category) name)).1
  | .removePassthrough name => (s.act (Classification.removePassthrough (setKeys category) name)).1
  | .hits => (s.act (Classification.hits (setKeys category))).1
  | .passthroughs => (s.act (Classification.passthroughs (setKeys category))).1
  | .hitsSince since => (s.act (Classification.hitsSince (setKeys category) since)).1
  | .trim limit => (s.act (Classification.trim (setKeys category) limit)).1
  | .clear => (s.act (Classification.clear (setKeys category))).1

/-! ### The writes of a use -/

/-- Reading the table writes nothing. -/
theorem trail_reading {α : Type} (f : Sets → α) (db : Database) :
    Trail may db (execute (Database.readSets >>= fun sets => pure (f sets)) db).2 :=
  Trail.of_eq (Database.execute_reading f db)

/-- Looking a name up writes nothing. -/
theorem trail_lookup (key name : String) (db : Database) :
    Trail may db (execute (do return (← Database.score? key name).isSome) db).2 :=
  Database.trail_bind (trail_reading _ db) fun _ after => Trail.refl after

theorem trail_recallMatch (db : Database) (category : String) (score : Score) (pattern origin : String) :
    Trail (Own category) db (execute (recallMatch (setKeys category) score pattern origin) db).2 := by
  refine Database.trail_bind (trail_lookup _ pattern db) fun hit middle => ?_
  split
  · exact Database.trail_bind (Database.trail_addTo middle category ⟨pattern, .hit⟩ score rfl)
      fun _ last => Trail.refl last
  · refine Database.trail_bind (trail_lookup _ origin middle) fun passthrough after => ?_
    split
    · exact Database.trail_bind (Database.trail_addTo after category ⟨origin, .passthrough⟩ score rfl)
        fun _ last => Trail.refl last
    · exact Trail.refl after

theorem trail_examineMatch (s : State) (score : Score) (category pattern origin : String) :
    Trail (Own category) s.database (s.examineMatch score category pattern origin).1.database := by
  unfold examineMatch
  split
  · exact Trail.refl _
  · have recalled : Trail (Own category) s.database
        (s.apply (recallMatch (setKeys category) score pattern origin)).1.database := by
      rw [apply_fst]
      exact trail_recallMatch s.database category score pattern origin
    rcases step : s.apply (recallMatch (setKeys category) score pattern origin) with ⟨t, _ | _⟩
    · rwa [step] at recalled
    · rwa [step] at recalled

/-- A result of the filter of a category is examined for the category. -/
theorem trail_result (s : State) (clock : Clock) (category origin item : String) (status : MatchStatus)
    (place : Nat) :
    Trail (Own category) s.database (s.use category (.result clock origin item status place)).database := by
  show Trail _ _ (examineResult clock origin (s, 0) _).1.database
  unfold examineResult
  split
  · next other matched =>
    have same : other = category := by
      unfold matchedCategory? at matched
      split at matched
      · exact Category.eq_of_ofFilterUid? (Option.filter_eq_some_iff.mp matched).1
      · cases matched
    rw [same]
    exact trail_examineMatch s _ category _ origin
  · exact Trail.refl _

/-- **Every write of an operation for a category is its own.** -/
theorem use_trail (s : State) (category : String) (u : Use) :
    Trail (Own category) s.database (s.use category u).database := by
  cases u with
  | result clock origin item status place => exact trail_result s clock category origin item status place
  | confirm services clock items =>
    let start : State × ConfirmReport := (s, ⟨items.length, 0, [], 0, 0⟩)
    exact (confirmGroup_reaches services clock start (category, items)).trail.mono
      fun _ _ => category_of_confirms
  | refresh around =>
    exact (refresh_reaches_all s around category).trail.mono fun _ _ => category_of_refreshes
  | deactivate =>
    refine (deactivate_reaches s category).trail.mono ?_
    rintro db _ ⟨side, rfl⟩
    rfl
  | updateDomain pattern now => exact Database.trail_feed s.database category pattern now rfl
  | isHit name => exact trail_lookup _ name s.database
  | isPassthrough name => exact trail_lookup _ name s.database
  | addHit name score => exact Database.trail_addTo s.database category ⟨name, .hit⟩ score rfl
  | addPassthrough name score => exact Database.trail_addTo s.database category ⟨name, .passthrough⟩ score rfl
  | removeHit name => exact Database.trail_removeFrom s.database category ⟨name, .hit⟩ rfl
  | removePassthrough name => exact Database.trail_removeFrom s.database category ⟨name, .passthrough⟩ rfl
  | hits => exact trail_reading _ s.database
  | passthroughs => exact trail_reading _ s.database
  | hitsSince since => exact trail_reading _ s.database
  | trim limit =>
    refine (Database.trail_trim s.database category limit).mono ?_
    rintro db _ ⟨side, start, stop, rfl⟩
    rfl
  | clear =>
    refine (Database.trail_clear s.database category).mono ?_
    rintro db _ ⟨side, rfl⟩
    rfl

/-- **What is done for one category leaves all sets of another as they are**, with their scores. -/
theorem sameSets_use {other : String} (different : category ≠ other) (s : State) (u : Use) :
    SameSets other s.database (s.use category u).database :=
  (use_trail s category u).sameSets fun _ _ own same => different (own.symm.trans same)

end State

end CategoryFilter
