/-
**No name is a hit and a passthrough of one category at once.**

No write puts a name into both sets of a pair, and no two categories share a key. So from empty sets
neither the store nor the examiner ever has a common name in them (`never_hit_and_passthrough`),
whatever the services answer, whichever statements the database refuses, and also where an operation
stopped between two statements.
-/

import CategoryFilter.Proofs.Examiner.Run
import CategoryFilter.Store.Schema

namespace CategoryFilter.State

theorem exclusive_operate {s : State} {category : String}
    (held : (s.database.pair category).Exclusive) (operation : Operation) :
    ((s.operate operation).database.pair category).Exclusive :=
  (operate_trail s operation).exclusive held

theorem exclusive_runOperations {category : String} (operations : List Operation) :
    ∀ s : State, (s.database.pair category).Exclusive →
      ((s.runOperations operations).database.pair category).Exclusive := by
  induction operations with
  | nil => exact fun _ held => held
  | cons operation rest ih =>
    intro s held
    exact ih (s.operate operation) (exclusive_operate held operation)

/-- **Never both.** From empty sets no operations make a name a hit and a passthrough of one category. -/
theorem never_hit_and_passthrough (s : State) (empty : ∀ key, s.database.setAt key = .empty)
    (operations : List Operation) (category name : String) :
    ¬ (((s.runOperations operations).database.pair category .hit).contains name = true ∧
      ((s.runOperations operations).database.pair category .passthrough).contains name = true) := by
  have start : (s.database.pair category).Exclusive := by
    rintro other ⟨hit, -⟩
    have none : s.database.pair category .hit = .empty := empty _
    rw [none, SortedSet.contains_empty] at hit
    cases hit
  exact exclusive_runOperations operations s start name

/-- A new database in which one name is made a hit and then a passthrough. -/
theorem never_hit_and_passthrough_new :
    (∀ key, (State.new .standard .new).database.setAt key = .empty) ∧
      ∀ category name,
        ¬ ((((State.new .standard .new).runOperations
              [.addHit "games" "a.com" 1, .addPassthrough "games" "a.com" 2]).database.pair
                category .hit).contains name = true ∧
          (((State.new .standard .new).runOperations
              [.addHit "games" "a.com" 1, .addPassthrough "games" "a.com" 2]).database.pair
                category .passthrough).contains name = true) :=
  ⟨fun _ => rfl, fun category name =>
    never_hit_and_passthrough (.new .standard .new) (fun _ => rfl)
      [.addHit "games" "a.com" 1, .addPassthrough "games" "a.com" 2] category name⟩

end CategoryFilter.State
