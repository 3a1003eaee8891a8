/-
**Which writes lead from one state of the examiner to another.**

`Reaches` says that a state is reached by allowed writes, with the same registry, configuration and
switch. Actions, notices, questions and the queue are the parts that operations are made of, and
`foldl_reaches` is for operations that repeat a part for each element of a list.

Nothing is assumed of the database: an action that fails makes a part of its writes or none.
-/

import CategoryFilter.Proofs.Store.Write

namespace CategoryFilter.State

open Database (Trail execute)
open Category (setKeys)

variable {s t u : State} {may wider : Database → Write → Prop}

/-- A state reached by allowed writes, with the same registry, configuration and switch. -/
structure Reaches (may : Database → Write → Prop) (s t : State) : Prop where
  trail : Trail may s.database t.database
  registry : t.registry = s.registry
  config : t.config = s.config
  enabled : t.session.enabled = s.session.enabled

namespace Reaches

theorem refl (s : State) : Reaches may s s := ⟨Trail.refl _, rfl, rfl, rfl⟩

theorem trans (first : Reaches may s t) (second : Reaches may t u) : Reaches may s u :=
  ⟨first.trail.trans second.trail, second.registry.trans first.registry,
    second.config.trans first.config, second.enabled.trans first.enabled⟩

theorem mono (reached : Reaches may s t) (wide : ∀ db w, may db w → wider db w) :
    Reaches wider s t :=
  ⟨reached.trail.mono wide, reached.registry, reached.config, reached.enabled⟩

end Reaches

/-- A state in which it is a category's turn: the sets of the category are as they were, and so are the
registry, the configuration and the switch. -/
structure Turn (s u : State) (category : String) : Prop where
  pair : u.database.pair category = s.database.pair category
  registry : u.registry = s.registry
  config : u.config = s.config
  enabled : u.session.enabled = s.session.enabled
  healthy : s.database.Healthy → u.database.Healthy

theorem Turn.refl (s : State) (category : String) : Turn s s category := ⟨rfl, rfl, rfl, rfl, id⟩

theorem Turn.of_reaches {category : String} (reached : Reaches may s u)
    (pair : u.database.pair category = s.database.pair category) : Turn s u category :=
  ⟨pair, reached.registry, reached.config, reached.enabled, reached.trail.healthy⟩

theorem Turn.trans {category : String} (first : Turn s t category) (second : Turn t u category) :
    Turn s u category :=
  ⟨second.pair.trans first.pair, second.registry.trans first.registry,
    second.config.trans first.config, second.enabled.trans first.enabled,
    fun healthy => second.healthy (first.healthy healthy)⟩

/-! ### Actions and folds -/

theorem act_fst {α : Type} (s : State) (action : Action α) :
    (s.act action).1 = { s with database := (execute action s.database).2 } := rfl

theorem act_snd {α : Type} (s : State) (action : Action α) :
    (s.act action).2 = (execute action s.database).1 := rfl

theorem apply_fst (s : State) (action : Action Bool) :
    (s.apply action).1 = { s with database := (execute action s.database).2 } := by
  unfold apply
  rw [← act_fst]
  rcases s.act action with ⟨t, _ | changed⟩ <;> rfl

theorem apply_snd {action : Action Bool} {changed : Bool}
    (done : (execute action s.database).1 = .ok changed) : (s.apply action).2 = changed := by
  rw [← act_snd] at done
  unfold apply
  rcases step : s.act action with ⟨t, outcome⟩
  rw [step] at done
  cases done
  rfl

theorem act_reaches {α : Type} {action : Action α}
    (trail : Trail may s.database (execute action s.database).2) : Reaches may s (s.act action).1 :=
  ⟨trail, rfl, rfl, rfl⟩

theorem apply_reaches {action : Action Bool}
    (trail : Trail may s.database (execute action s.database).2) :
    Reaches may s (s.apply action).1 := by
  rw [apply_fst]
  exact ⟨trail, rfl, rfl, rfl⟩

theorem notifyIf_reaches (s : State) (changed : Bool) (category : String) :
    Reaches may s (s.notifyIf changed category) := by
  unfold notifyIf
  split
  · exact ⟨Trail.refl _, rfl, rfl, rfl⟩
  · exact Reaches.refl s

theorem database_notifyIf (s : State) (changed : Bool) (category : String) :
    (s.notifyIf changed category).database = s.database := by
  unfold notifyIf
  split <;> rfl

theorem ask_reaches (s : State) (questions : List Question) : Reaches may s (s.ask questions) :=
  ⟨Trail.refl _, rfl, rfl, rfl⟩

theorem withQueue_reaches (s : State) (queue : Queue) : Reaches may s (s.withQueue queue) :=
  ⟨Trail.refl _, rfl, rfl, rfl⟩

theorem requeue_reaches (s : State) (p : Pending) : Reaches may s (s.requeue p).1 :=
  withQueue_reaches s _

/-- Allowed steps one after another reach a state if each does under the first registry. `view` is the
state within what the steps carry along. -/
theorem foldl_reaches {σ β : Type} (view : σ → State) (step : σ → β → σ) (items : List β)
    (start : σ)
    (each : ∀ x b, b ∈ items → (view x).registry = (view start).registry →
      Reaches may (view x) (view (step x b))) :
    Reaches may (view start) (view (items.foldl step start)) := by
  -- The steps compare with the registry of `start`, so it stays fixed while the list gets shorter.
  suffices later : ∀ now, Reaches may (view start) (view now) →
      Reaches may (view start) (view (items.foldl step now)) from later start (Reaches.refl _)
  induction items with
  | nil => exact fun _ reached => reached
  | cons b rest ih =>
    intro now reached
    refine ih (fun x c listed => each x c (List.mem_cons_of_mem _ listed)) (step now b) ?_
    exact reached.trans (each now b List.mem_cons_self reached.registry)

/-- Steps that each change the pair of a category in a known way change it so one after another.
`healthy` is what a step needs of the database. -/
theorem pair_foldl {σ β : Type} (view : σ → State) (step : σ → β → σ) (healthy : Database → Prop)
    (category : String) (change : SetPair → β → SetPair) (items : List β) (start : σ)
    (each : ∀ x b, b ∈ items → healthy (view x).database →
      healthy (view (step x b)).database ∧
        (view (step x b)).database.pair category = change ((view x).database.pair category) b)
    (held : healthy (view start).database) :
    (view (items.foldl step start)).database.pair category =
      items.foldl change ((view start).database.pair category) := by
  induction items generalizing start with
  | nil => rfl
  | cons b rest ih =>
    obtain ⟨later, first⟩ := each start b List.mem_cons_self held
    rw [List.foldl_cons, List.foldl_cons, ← first]
    exact ih (step start b) (fun x c listed => each x c (List.mem_cons_of_mem _ listed)) later

end CategoryFilter.State
