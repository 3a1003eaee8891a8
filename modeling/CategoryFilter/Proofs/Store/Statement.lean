/-
**The calls of the store, statement by statement.**

A call that puts a name into one set of a category, or takes it out, is made of one or two statements, each
on one set. `Concurrent` is a database with calls under way, and a schedule says whose statement is next:

* `contains_erase`, `contains_insert`: what an accepted statement does to the memberships; a refused one
  does nothing.
* `erase_gone`: a name that has been erased is gone.
* `interleave_alone`: a call without others leaves what its action on the database leaves.
-/

import CategoryFilter.Proofs.Store.Write

namespace CategoryFilter

open Category (sideKey setKeys)
open Database (execute)

/-- A statement on one set of a category. -/
inductive Statement where
  | erase (m : Member)
  | insert (m : Member) (score : Score)
deriving Repr, DecidableEq

/-- A call that puts a name into one set of a category or takes it out. -/
inductive PairCall where
  | add (m : Member) (score : Score)
  | remove (m : Member)
deriving Repr, DecidableEq

/-- The name and the set that a statement is about. -/
def Statement.member : Statement → Member
  | .erase m | .insert m _ => m

/-- A statement as an action on the database. -/
def Statement.action (category : String) : Statement → Action Bool
  | .erase m => Database.erase (sideKey category m.side) m.domain
  | .insert m score => Database.insert (sideKey category m.side) score m.domain

/-- A call as an action on the database. -/
def PairCall.action (category : String) : PairCall → Action Bool
  | .add m score => Database.addTo category m score
  | .remove m => Database.removeFrom category m

/-- The statements of a call: a name leaves one set before it enters the other. -/
def PairCall.statements : PairCall → List Statement
  | .add m score => [.erase ⟨m.domain, m.side.opposite⟩, .insert m score]
  | .remove m => [.erase m]

/-- A database with calls under way. -/
structure Concurrent where
  database : Database
  /-- What each call still has to do. -/
  running : List (List Statement)
deriving Repr, DecidableEq

namespace Concurrent

/-- What is left of a call after one of its statements; a failed one ends the call. -/
def remaining (outcome : Except StorageError Bool) (rest : List Statement) : List Statement :=
  match outcome with
  | .ok _ => rest
  | .error _ => []

/-- The next statement of a call, by its place among the calls. -/
def advance (category : String) (c : Concurrent) (i : Nat) : Concurrent :=
  match c.running[i]? with
  | some (statement :: rest) =>
    let (outcome, database) := execute (statement.action category) c.database
    ⟨database, c.running.set i (remaining outcome rest)⟩
  | _ => c

/-- The statements of some calls in the order of a schedule. -/
def interleave (category : String) (c : Concurrent) (schedule : List Nat) : Concurrent :=
  schedule.foldl (advance category) c

/-- Some calls that begin at once. -/
def begin (db : Database) (calls : List PairCall) : Concurrent :=
  ⟨db, calls.map PairCall.statements⟩

/-- What a call still has to do, by its place. -/
def left (c : Concurrent) (i : Nat) : List Statement :=
  c.running[i]?.getD []

/-- All calls have returned. -/
def Returned (c : Concurrent) : Prop :=
  ∀ i, c.left i = []

end Concurrent

/-! ### One statement -/

namespace Statement

variable {db : Database} {category name : String} {m : Member} {st : Statement} {score : Score}
  {side : Side}

theorem execute_refused (refused : ¬ db.Accepts st.member.domain) :
    (execute (st.action category) db).2 = db := by
  cases st with
  | erase m => exact Database.execute_erase_refused refused
  | insert m score => exact congrArg Prod.snd (Database.execute_insert_refused refused score)

theorem exists_ok (accepted : db.Accepts st.member.domain) (category : String) :
    ∃ changed, (execute (st.action category) db).1 = .ok changed := by
  cases st with
  | erase m => exact ⟨_, congrArg Prod.fst (Database.execute_erase accepted)⟩
  | insert m score => exact ⟨_, congrArg Prod.fst (Database.execute_insert accepted score)⟩

theorem contains_erase (accepted : db.Accepts m.domain) :
    ((execute ((erase m).action category) db).2.pair category side).contains name =
      ((db.pair category side).contains name && ⟨name, side⟩ != m) := by
  have gone : (execute ((erase m).action category) db).2 = db.write (.remove category m) :=
    congrArg Prod.snd (Database.execute_erase accepted)
  rw [gone, Database.pair_remove, SetPair.contains_remove]

theorem contains_insert (accepted : db.Accepts m.domain) :
    ((execute ((insert m score).action category) db).2.pair category side).contains name =
      ((db.pair category side).contains name || ⟨name, side⟩ == m) := by
  have made : (execute ((insert m score).action category) db).2 =
      db.replace (sideKey category m.side) ((db.pair category m.side).insert m.domain score) :=
    congrArg Prod.snd (Database.execute_insert accepted score)
  rw [made, Database.pair_replace, if_pos rfl]
  unfold SetPair.set
  by_cases same : side = m.side
  · rw [if_pos same, SortedSet.contains_insert, same, Bool.or_comm]
    refine congrArg ((db.pair category m.side).contains name || ·) ?_
    rw [Bool.eq_iff_iff, beq_iff_eq, beq_iff_eq]
    exact ⟨fun equal => by rw [equal], congrArg Member.domain⟩
  · have different : (⟨name, side⟩ : Member) ≠ m := fun equal => same (congrArg Member.side equal)
    rw [if_neg same, beq_eq_false_iff_ne.mpr different, Bool.or_false]

/-- A statement about another name changes nothing for a name. -/
theorem contains_other (other : name ≠ st.member.domain) :
    ((execute (st.action category) db).2.pair category side).contains name =
      (db.pair category side).contains name := by
  by_cases accepted : db.Accepts st.member.domain
  · cases st with
    | erase m =>
      have different : (⟨name, side⟩ : Member) ≠ m := fun same => other (congrArg Member.domain same)
      rw [contains_erase (m := m) accepted, bne_iff_ne.mpr different, Bool.and_true]
    | insert m score =>
      have different : (⟨name, side⟩ : Member) ≠ m := fun same => other (congrArg Member.domain same)
      rw [contains_insert (m := m) accepted, beq_eq_false_iff_ne.mpr different, Bool.or_false]
  · rw [execute_refused accepted]

/-- A name that is in a set after a statement was there before or has been inserted. -/
theorem held_before (held :
      ((execute (st.action category) db).2.pair category side).contains name = true) :
    (db.pair category side).contains name = true ∨ ∃ score, st = .insert ⟨name, side⟩ score := by
  by_cases accepted : db.Accepts st.member.domain
  · cases st with
    | erase m =>
      rw [contains_erase (m := m) accepted] at held
      exact Or.inl (Bool.and_eq_true_iff.mp held).1
    | insert m score =>
      rw [contains_insert (m := m) accepted, Bool.or_eq_true, beq_iff_eq] at held
      exact held.imp_right fun same => ⟨score, by rw [same]⟩
  · rw [execute_refused accepted] at held
    exact Or.inl held

/-- A name that has been erased is gone. -/
theorem erase_gone {changed : Bool}
    (done : (execute ((erase m).action category) db).1 = .ok changed) :
    ((execute ((erase m).action category) db).2.pair category m.side).contains m.domain = false := by
  by_cases accepted : db.Accepts m.domain
  · rw [contains_erase accepted, bne_self_eq_false, Bool.and_false]
  · have absent : (db.setAt (sideKey category m.side)).contains m.domain = false := by
      refine Bool.eq_false_iff.mpr fun there => ?_
      unfold Statement.action Database.erase at done
      dsimp only at done
      by_cases present : db.sets.isSome = true
      · rw [Database.execute_bind_ok (Database.execute_readSets present)] at done
        have done : (execute (if (db.setAt (sideKey category m.side)).contains m.domain then _ else _)
          db).1 = .ok changed := done
        rw [if_pos there, Database.execute_bind_error (Database.execute_checkGuard_refused
          (Database.guarded_of_refused present accepted))] at done
        cases done
      · rw [Database.execute_bind_error (Database.execute_readSets_missing present)] at done
        cases done
    have kept : (execute ((erase m).action category) db).2 = db := execute_refused accepted
    rw [kept]
    exact absent

theorem accepts_execute (st : Statement) :
    (execute (st.action category) db).2.Accepts name ↔ db.Accepts name := by
  by_cases accepted : db.Accepts st.member.domain
  · cases st with
    | erase m =>
      have gone : (execute ((erase m).action category) db).2 = db.write (.remove category m) :=
        congrArg Prod.snd (Database.execute_erase accepted)
      rw [gone]
      refine ⟨fun after => ⟨accepted.present, ?_⟩, fun before => before.write _⟩
      rw [← Database.guarded_write db (.remove category m)]
      exact after.unguarded
    | insert m score =>
      have made : (execute ((insert m score).action category) db).2 = db.replace _ _ :=
        congrArg Prod.snd (Database.execute_insert accepted score)
      rw [made]
      exact ⟨fun after => ⟨accepted.present, after.unguarded⟩, fun before => before.replace _ _⟩
  · rw [execute_refused accepted]

end Statement

/-! ### One call -/

namespace Concurrent

variable {db : Database} {category : String} {c : Concurrent} {i k : Nat} {st : Statement}
  {rest : List Statement}

theorem running_of_left (waiting : c.left i = st :: rest) : c.running[i]? = some (st :: rest) := by
  unfold left at waiting
  cases there : c.running[i]? with
  | none =>
    rw [there] at waiting
    cases waiting
  | some found =>
    rw [there] at waiting
    exact congrArg some waiting

theorem mem_of_left (waiting : c.left i = st :: rest) : st :: rest ∈ c.running :=
  List.mem_of_getElem? (running_of_left waiting)

theorem advance_waiting (waiting : c.left i = st :: rest) :
    c.advance category i =
      ⟨(execute (st.action category) c.database).2,
        c.running.set i (remaining (execute (st.action category) c.database).1 rest)⟩ := by
  unfold advance
  rw [running_of_left waiting]

theorem advance_idle (idle : c.left i = []) : c.advance category i = c := by
  unfold advance
  split
  · next waiting =>
    unfold left at idle
    rw [waiting] at idle
    cases idle
  · rfl

@[simp] theorem remaining_nil (outcome : Except StorageError Bool) : remaining outcome [] = [] := by
  cases outcome <;> rfl

/-- The first statement of a call that is alone. -/
theorem advance_alone (db : Database) (category : String) (st : Statement) (rest : List Statement) :
    advance category ⟨db, [st :: rest]⟩ 0 =
      ⟨(execute (st.action category) db).2, [remaining (execute (st.action category) db).1 rest]⟩ :=
  rfl

theorem returned_single : Returned ⟨db, [[]]⟩ := by
  intro i
  cases i <;> rfl

/-- Two statements one after the other, the second if the first succeeds. -/
theorem advance_pair (db : Database) (category : String) (first second : Statement) :
    (advance category (advance category ⟨db, [[first, second]]⟩ 0) 0).database =
        (execute (do
          let removed ← first.action category
          let added ← second.action category
          return added || removed) db).2 ∧
      (advance category (advance category ⟨db, [[first, second]]⟩ 0) 0).Returned := by
  rw [advance_alone]
  rcases step : execute (first.action category) db with ⟨_ | removed, middle⟩
  · rw [Database.execute_bind_error step]
    exact ⟨rfl, returned_single⟩
  · rw [Database.execute_bind_ok step, Database.execute_map_snd]
    show (advance category ⟨middle, [[second]]⟩ 0).database = _ ∧
      (advance category ⟨middle, [[second]]⟩ 0).Returned
    rw [advance_alone, remaining_nil]
    exact ⟨rfl, returned_single⟩

/-- **A call without others is its action on the database.** -/
theorem interleave_alone (db : Database) (category : String) (call : PairCall) :
    ((begin db [call]).interleave category [0, 0]).database =
        (execute (call.action category) db).2 ∧
      ((begin db [call]).interleave category [0, 0]).Returned := by
  cases call with
  | add m score =>
    obtain ⟨name, side⟩ := m
    cases side with
    | hit => exact advance_pair db category (.erase ⟨name, .passthrough⟩) (.insert ⟨name, .hit⟩ score)
    | passthrough =>
      exact advance_pair db category (.erase ⟨name, .hit⟩) (.insert ⟨name, .passthrough⟩ score)
  | remove m =>
    have same : (Statement.erase m).action category = Database.removeFrom category m := by
      obtain ⟨name, side⟩ := m
      cases side <;> rfl
    have done : (begin db [.remove m]).interleave category [0, 0] =
        ⟨(execute ((Statement.erase m).action category) db).2, [[]]⟩ := by
      show advance category (advance category ⟨db, [[.erase m]]⟩ 0) 0 = _
      rw [advance_alone, remaining_nil]
      rfl
    rw [done, same]
    exact ⟨rfl, returned_single⟩

end Concurrent

end CategoryFilter
