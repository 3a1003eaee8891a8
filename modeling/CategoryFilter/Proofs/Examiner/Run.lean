/-
**Runs of complete operations.**

A `Call` is one operation of the examiner with all that it meets from outside. In a run the registry may
change between the calls (`Step`), and other parts of the program may use the store directly
(`Operation`).

* `perform_reaches`, `step_trail`, `operate_trail`: the writes of one call, step or operation. What each
  of them keeps, a run keeps.
* `exists_refresh_turn`: a refresh of all refreshes each category once, if it gets that far.
-/

import CategoryFilter.Proofs.Examiner.Confirmation
import CategoryFilter.Proofs.Examiner.Detection
import CategoryFilter.Proofs.Examiner.Refresh

namespace CategoryFilter.State

open Database (Trail execute)
open Category (setKeys)

/-- An operation of the examiner with its surroundings. -/
inductive Call where
  | detect (around : Surroundings) (origin : String)
  | confirm (around : Surroundings)
  | refresh (around : Surroundings) (category : String)
  | refreshAll (around : Surroundings)
  | deactivate (category : String)

/-- A call, or a change of the configured categories. -/
inductive Step where
  | call (c : Call)
  | configure (registry : Registry)

/-- A step, or a use of the store under the keys of a category. -/
inductive Operation where
  | step (step : Step)
  | addHit (category name : String) (score : Score)
  | addPassthrough (category name : String) (score : Score)
  | removeHit (category name : String)
  | removePassthrough (category name : String)
  | trim (category : String) (limit : Nat)
  | clear (category : String)

variable {s : State} {may : Database → Write → Prop}

/-- The state after a call. -/
def perform (s : State) : Call → State
  | .detect around origin => (s.detect around origin).1
  | .confirm around => (s.confirmQueued around.services around.clock).1
  | .refresh around category => (s.refresh around category).1
  | .refreshAll around => (s.refreshAll around).1
  | .deactivate category => (s.deactivate category).1

/-- The state after a step. -/
def step (s : State) : Step → State
  | .call c => s.perform c
  | .configure registry => { s with registry }

/-- The state after an operation. -/
def operate (s : State) : Operation → State
  | .step step => s.step step
  | .addHit category name score => (s.act (Classification.addHit (setKeys category) name score)).1
  | .addPassthrough category name score =>
    (s.act (Classification.addPassthrough (setKeys category) name score)).1
  | .removeHit category name => (s.act (Classification.removeHit (setKeys category) name)).1
  | .removePassthrough category name =>
    (s.act (Classification.removePassthrough (setKeys category) name)).1
  | .trim category limit => (s.act (Classification.trim (setKeys category) limit)).1
  | .clear category => (s.act (Classification.clear (setKeys category))).1

/-- The state after some steps. -/
def run (s : State) (steps : List Step) : State :=
  steps.foldl step s

/-- The state after some operations. -/
def runOperations (s : State) (operations : List Operation) : State :=
  operations.foldl operate s

/-! ### Writes of the calls -/

/-- A refresh moves excluded hits and removes other names, or does nothing. -/
theorem refresh_reaches_all (s : State) (around : Surroundings) (category : String) :
    Reaches (Refreshes s.registry category) s (s.refresh around category).1 := by
  by_cases going : s.Refreshable around category
  · have moved := migrated_reaches s around.clock category
    exact (moved.mono fun _ _ => Or.inl).trans ((refresh_reaches going).mono fun _ _ => Or.inr)
  · rw [refresh_idle going]
    exact Reaches.refl s

theorem refreshEach_cons (s : State) (around : Surroundings) (category : String)
    (rest : List String) :
    (s.refreshEach around (category :: rest)).1 =
      if around.stopped (.turn category) then s
      else ((s.refresh around category).1.refreshEach around rest).1 := by
  conv_lhs => unfold refreshEach
  split
  · rfl
  · rcases s.refresh around category with ⟨t, _ | _ | _⟩ <;> rfl

theorem refreshEach_reaches (around : Surroundings) (categories : List String) :
    ∀ s : State, Reaches (fun db w => ∃ category ∈ categories, Refreshes s.registry category db w) s
      (s.refreshEach around categories).1 := by
  induction categories with
  | nil => exact fun s => Reaches.refl s
  | cons category rest ih =>
    intro s
    rw [refreshEach_cons]
    split
    · exact Reaches.refl s
    · have first := refresh_reaches_all s around category
      have later := ih (s.refresh around category).1
      rw [first.registry] at later
      refine (first.mono fun _ _ allowed => ⟨category, List.mem_cons_self, allowed⟩).trans ?_
      exact later.mono fun _ _ ⟨other, listed, allowed⟩ =>
        ⟨other, List.mem_cons_of_mem _ listed, allowed⟩

/-- The categories that are refreshed before shutdown is asked for. -/
def turns (around : Surroundings) (categories : List String) : List String :=
  categories.takeWhile fun category => !around.stopped (.turn category)

theorem category_of_refreshes {registry : Registry} {category : String} {db : Database} {w : Write}
    (allowed : Refreshes registry category db w) : w.category = category := by
  rcases allowed with moved | removed
  · cases moved
    rfl
  · cases removed
    rfl

/-- A category whose turn does not come keeps its pair. -/
theorem pair_refreshEach_unturned {category : String} {around : Surroundings}
    (categories : List String) :
    ∀ s : State, category ∉ turns around categories →
      (s.refreshEach around categories).1.database.pair category = s.database.pair category := by
  induction categories with
  | nil => exact fun _ _ => rfl
  | cons first rest ih =>
    intro s absent
    unfold turns at absent
    rw [List.takeWhile_cons] at absent
    rw [refreshEach_cons]
    split
    · rfl
    · next going =>
      have going : (!around.stopped (.turn first)) = true := by simpa using going
      rw [if_pos going, List.mem_cons, not_or] at absent
      have kept : (s.refresh around first).1.database.pair category = s.database.pair category :=
        (refresh_reaches_all s around first).trail.pair_eq fun _ _ allowed same =>
          absent.1 (same.symm.trans (category_of_refreshes allowed))
      exact (ih _ absent.2).trans kept

/-- **A category whose turn comes is refreshed once**, and the others leave its pair alone. -/
theorem exists_refresh_turn {category : String} {around : Surroundings} (categories : List String) :
    ∀ s : State, categories.Nodup → category ∈ turns around categories →
      ∃ u, Turn s u category ∧
        (s.refreshEach around categories).1.database.pair category =
          (u.refresh around category).1.database.pair category := by
  induction categories with
  | nil => exact fun _ _ listed => absurd listed List.not_mem_nil
  | cons first rest ih =>
    intro s distinct listed
    obtain ⟨once, distinct⟩ := List.nodup_cons.mp distinct
    unfold turns at listed
    rw [List.takeWhile_cons] at listed
    split at listed
    · next going =>
      have going : ¬ around.stopped (.turn first) = true := by simpa using going
      rw [refreshEach_cons, if_neg going]
      rcases List.mem_cons.mp listed with rfl | later
      · refine ⟨s, .refl s _, ?_⟩
        refine pair_refreshEach_unturned rest _ fun listed => once ?_
        exact (List.takeWhile_sublist _).subset listed
      · have other : first ≠ category := by
          rintro rfl
          exact once ((List.takeWhile_sublist _).subset later)
        have reached := refresh_reaches_all s around first
        have kept : (s.refresh around first).1.database.pair category = s.database.pair category :=
          reached.trail.pair_eq fun _ _ allowed same => other (category_of_refreshes allowed ▸ same)
        obtain ⟨u, turn, last⟩ := ih (s.refresh around first).1 distinct later
        exact ⟨u, (Turn.of_reaches reached kept).trans turn, last⟩
    · cases listed

theorem deactivate_reaches (s : State) (category : String) :
    Reaches (Database.Clears category) s (s.deactivate category).1 := by
  have cleared : Reaches (Database.Clears category) s
      (s.act (Classification.clear (setKeys category))).1 :=
    act_reaches (Database.trail_clear s.database category)
  unfold deactivate
  rcases step : s.act (Classification.clear (setKeys category)) with ⟨t, cause | changed⟩
  · rwa [step] at cleared
  · rw [step] at cleared
    exact cleared.trans (notifyIf_reaches t changed category)

/-- A write of a call. -/
inductive Performs (registry : Registry) (db : Database) (w : Write) : Prop
  | detect (allowed : Recalls registry db w)
  | confirm (allowed : ConfirmsAny registry db w)
  | refresh (category : String) (allowed : Refreshes registry category db w)
  | deactivate (category : String) (allowed : Database.Clears category db w)

/-- **The writes of a call**, whatever comes from outside. -/
theorem perform_reaches (s : State) (c : Call) :
    Reaches (Performs s.registry) s (s.perform c) := by
  cases c with
  | detect around origin => exact (detect_reaches s around origin).mono fun _ _ => .detect
  | confirm around => exact (confirmQueued_reaches s _ _).mono fun _ _ => .confirm
  | refresh around category =>
    exact (refresh_reaches_all s around category).mono fun _ _ => .refresh category
  | refreshAll around =>
    refine (refreshEach_reaches around _ s).mono ?_
    rintro db w ⟨category, -, allowed⟩
    exact .refresh category allowed
  | deactivate category => exact (deactivate_reaches s category).mono fun _ _ => .deactivate category

theorem step_trail (s : State) (step : Step) :
    Trail (Performs s.registry) s.database (s.step step).database := by
  cases step with
  | call c => exact (perform_reaches s c).trail
  | configure registry => exact Trail.refl _

/-- An operation makes writes and nothing else. -/
theorem operate_trail (s : State) (operation : Operation) :
    Trail (fun _ _ => True) s.database (s.operate operation).database := by
  cases operation with
  | step step => exact (step_trail s step).mono fun _ _ _ => trivial
  | addHit category name score => exact Database.trail_addTo _ category ⟨name, .hit⟩ score trivial
  | addPassthrough category name score =>
    exact Database.trail_addTo _ category ⟨name, .passthrough⟩ score trivial
  | removeHit category name => exact Database.trail_removeFrom _ category ⟨name, .hit⟩ trivial
  | removePassthrough category name =>
    exact Database.trail_removeFrom _ category ⟨name, .passthrough⟩ trivial
  | trim category limit => exact (Database.trail_trim _ category limit).mono fun _ _ _ => trivial
  | clear category => exact (Database.trail_clear _ category).mono fun _ _ _ => trivial

end CategoryFilter.State
