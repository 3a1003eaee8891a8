/-
**Tasks that do not dispatch.**

A task of the service that is no dispatcher runs step by step as a dispatcher does, and what it does there
concerns the examiner and the locks of categories:

* `Alike`: two states of the service with the same tasks, permits and channels.
* `Keeps`: moreover the same tasks are finished, and the sessions have the same numbers.
* `Spares`: a step leaves the tasks as they are, or it wakes one that waits for a lock.
* `stepsPlain_step`: each step of such a task is of that kind, and the task does not become a dispatcher.
-/

import CategoryFilter.Service.Executor

namespace CategoryFilter

/-- Whether a task at a stage is a dispatcher. -/
def Stage.dispatches : Stage → Bool
  | .dispatching _ | .permitted _ _ => true
  | _ => false

/-- How a task goes on that does not become a dispatcher. -/
def Next.IsPlain : Next → Prop
  | .go stage | .wait stage _ => stage.dispatches = false
  | .done _ => True

namespace Executor

variable {ex mid other : Executor} {t : Task} {id session : Nat}

/-! ### What other tasks do -/

/-- Two states of the service with the same tasks, permits and channels. -/
structure Alike (ex other : Executor) : Prop where
  tasks : other.tasks = ex.tasks
  ready : other.ready = ex.ready
  permits : other.permits = ex.permits
  channels : other.channels = ex.channels
  fresh : other.fresh = ex.fresh

/-- Two such states with the same finished tasks and the same numbers of sessions. -/
structure Keeps (ex other : Executor) : Prop extends Alike ex other where
  results : other.results = ex.results
  current : other.current = ex.current
  retired : other.retired.map Prod.fst = ex.retired.map Prod.fst

namespace Keeps

/-- Only what an operation of the examiner or the locks concern is changed. -/
theorem of_with (ex : Executor) (state : State) (locks : List (Nat × String)) :
    Keeps ex { ex with state, locks } :=
  ⟨⟨rfl, rfl, rfl, rfl, rfl⟩, rfl, rfl, rfl⟩

theorem refl (ex : Executor) : Keeps ex ex := of_with ex _ _

theorem trans (first : Keeps ex mid) (second : Keeps mid other) : Keeps ex other :=
  ⟨⟨second.tasks.trans first.tasks, second.ready.trans first.ready,
    second.permits.trans first.permits, second.channels.trans first.channels,
    second.fresh.trans first.fresh⟩, second.results.trans first.results,
    second.current.trans first.current, second.retired.trans first.retired⟩

theorem wake (keeps : Keeps ex other) (id : Nat) : Keeps (ex.wake id) (other.wake id) := by
  refine ⟨⟨?_, ?_, keeps.permits, keeps.channels, keeps.fresh⟩, keeps.results, keeps.current,
    keeps.retired⟩
  · unfold Executor.wake
    rw [keeps.tasks]
  · unfold Executor.wake
    rw [keeps.ready]

theorem inSession {α : Type} (ex : Executor) (session : Nat) (part : State → State × α) :
    Keeps ex (ex.inSession session part).1 := by
  unfold Executor.inSession
  split
  · exact of_with ex _ _
  · refine ⟨⟨rfl, rfl, rfl, rfl, rfl⟩, rfl, rfl, ?_⟩
    dsimp only
    rw [List.map_map]
    refine List.map_congr_left fun r _ => ?_
    show (if r.1 = session then _ else _ : Nat × Session).1 = r.1
    split <;> rfl

end Keeps

theorem mem_of_task? (found : ex.task? id = some t) : t ∈ ex.tasks ∧ t.id = id := by
  unfold task? at found
  have passes := List.find?_some found
  exact ⟨List.mem_of_find?_eq_some found, of_decide_eq_true passes⟩

theorem mem_waitingFor {test : Task → Wait → Bool} : id ∈ ex.waitingFor test ↔
    ∃ t ∈ ex.tasks, t.id = id ∧ ∃ reason turn, t.waiting = some (reason, turn) ∧ test t reason = true := by
  unfold waitingFor
  simp only [List.mem_map, List.mem_mergeSort, List.mem_filterMap]
  constructor
  · rintro ⟨⟨turn, own⟩, ⟨t, there, found⟩, rfl⟩
    split at found
    · next reason turn' waits =>
      split at found
      · next passes =>
        cases found
        exact ⟨t, there, rfl, reason, _, waits, passes⟩
      · cases found
    · cases found
  · rintro ⟨t, there, rfl, reason, turn, waits, passes⟩
    refine ⟨(turn, t.id), ⟨t, there, ?_⟩, rfl⟩
    rw [waits]
    exact if_pos passes

/-- A task other than a dispatcher leaves the others alone, or wakes one that waits for a lock. -/
inductive Spares (ex other : Executor) : Prop
  | keeps (same : Keeps ex other)
  | woken {t : Task} {category : String} {turn : Nat} (there : t ∈ ex.tasks)
      (waits : t.waiting = some (.lock category, turn)) (same : Keeps (ex.wake t.id) other)

theorem Spares.of_keeps (first : Keeps ex mid) (second : Spares mid other) : Spares ex other := by
  cases second with
  | keeps same => exact .keeps (first.trans same)
  | woken there waits same =>
    rw [first.tasks] at there
    exact .woken there waits ((first.wake _).trans same)

theorem spares_unlock (ex : Executor) (session : Nat) (category : String) :
    Spares ex (ex.unlock session category) := by
  unfold unlock
  split
  · next id rest found =>
    obtain ⟨t, there, rfl, reason, turn, waits, passes⟩ :=
      mem_waitingFor.mp (found ▸ List.mem_cons_self)
    rw [Bool.and_eq_true, decide_eq_true_iff] at passes
    obtain rfl := of_decide_eq_true passes.2
    exact .woken there waits (.refl _)
  · exact .keeps (.of_with ex _ _)

/-- A task that runs is known by its number, and with the permit that it holds. -/
def Knows (ex : Executor) (t : Task) : Prop := ∃ s ∈ ex.tasks, s.id = t.id ∧ s.permit = t.permit

theorem Spares.knows (spares : Spares ex other) (known : ex.Knows t) : other.Knows t := by
  obtain ⟨s, there, same⟩ := known
  cases spares with
  | keeps keeps => exact ⟨s, keeps.tasks ▸ there, same⟩
  | @woken woken _ _ _ _ keeps =>
    unfold Knows
    rw [keeps.tasks]
    refine ⟨_, List.mem_map_of_mem there, ?_⟩
    split <;> exact same

/-- A step of a task that is no dispatcher. -/
structure StepsPlain (ex : Executor) (t : Task) (after : Executor × Task × Next) : Prop where
  spares : Spares ex after.1
  id : after.2.1.id = t.id
  session : after.2.1.session = t.session
  permit : after.2.1.permit = t.permit
  next : after.2.2.IsPlain

theorem StepsPlain.knows {after : Executor × Task × Next} (steps : StepsPlain ex t after)
    (known : ex.Knows t) : after.1.Knows after.2.1 := by
  unfold Knows
  rw [steps.id, steps.permit]
  exact steps.spares.knows known

theorem StepsPlain.of_keeps {after : Executor × Task × Next} (first : Keeps ex mid)
    (second : StepsPlain mid t after) : StepsPlain ex t after :=
  ⟨.of_keeps first second.spares, second.id, second.session, second.permit, second.next⟩

theorem stepsPlain_endRefresh (ex : Executor) (t : Task)
    (outcome : Except Failure (Option RefreshReport)) :
    StepsPlain ex t (ex.endRefresh t outcome) := by
  unfold endRefresh
  dsimp only
  have unlocked := spares_unlock ex t.session
  cases t.lock with
  | some category =>
    cases t.turns with
    | none => exact ⟨unlocked category, rfl, rfl, rfl, trivial⟩
    | some turns => exact ⟨unlocked category, rfl, rfl, rfl, rfl⟩
  | none =>
    cases t.turns with
    | none => exact ⟨.keeps (.refl ex), rfl, rfl, rfl, trivial⟩
    | some turns => exact ⟨.keeps (.refl ex), rfl, rfl, rfl, rfl⟩

theorem stepsPlain_askFilter {stage : Stage} (plain : stage.dispatches = false) (ex : Executor)
    (t : Task) (request : FilterRequest) :
    StepsPlain ex t ((ex.askFilter request stage).1, t, (ex.askFilter request stage).2) := by
  refine ⟨.keeps (.of_with ex _ _), rfl, rfl, rfl, ?_⟩
  unfold askFilter
  dsimp only
  split <;> exact plain

theorem stepsPlain_checkNext (ex : Executor) (t : Task) (r : Refresh) :
    StepsPlain ex t (ex.checkNext t r) := by
  unfold checkNext
  split
  · have concluded := Keeps.inSession ex t.session (·.concludeRefresh ex.services r)
    exact (stepsPlain_endRefresh _ t _).of_keeps concluded
  · split
    · have abandoned := Keeps.inSession ex t.session fun s => (s.abandonRefresh r, ())
      exact (stepsPlain_endRefresh _ t _).of_keeps abandoned
    · exact stepsPlain_askFilter rfl ex t _

theorem stepsPlain_stepLocked (ex : Executor) (t : Task) (category : String) :
    StepsPlain ex t (ex.stepLocked t category) := by
  have begun := Keeps.inSession ex t.session (·.beginRefresh ex.clock category)
  unfold stepLocked
  dsimp only
  split
  · exact (stepsPlain_endRefresh _ t _).of_keeps begun
  · exact (stepsPlain_endRefresh _ t _).of_keeps begun
  · exact (stepsPlain_endRefresh _ t _).of_keeps begun
  · exact (stepsPlain_checkNext _ t _).of_keeps begun

theorem stepsPlain_stepSettled (ex : Executor) (t : Task) (category : String) :
    StepsPlain ex t (ex.stepSettled t category) := by
  unfold stepSettled tryLock
  split
  · exact stepsPlain_endRefresh ex t _
  · dsimp only
    by_cases held : ex.locks.contains (t.session, category) = true
    · rw [if_pos held]
      exact ⟨.keeps (.refl ex), rfl, rfl, rfl, rfl⟩
    · rw [if_neg held]
      exact ⟨.keeps (.of_with ex _ _), rfl, rfl, rfl, rfl⟩

theorem stepsPlain_stepRefresh (ex : Executor) (t : Task) (category : String) :
    StepsPlain ex t (ex.stepRefresh t category) := by
  unfold stepRefresh
  split
  · exact stepsPlain_endRefresh ex t _
  · dsimp only
    split <;> exact ⟨.keeps (.refl ex), rfl, rfl, rfl, rfl⟩

/-- **What a task that is no dispatcher does in a step.** -/
theorem stepsPlain_step (plain : t.stage.dispatches = false) (ex : Executor) :
    StepsPlain ex t (ex.step t) := by
  unfold step
  cases stage : t.stage with
  | detect origin =>
    dsimp only
    have admitted := Keeps.inSession ex t.session (·.admits origin ex.now)
    split
    · next entered answer =>
      rw [answer] at admitted
      exact (stepsPlain_askFilter rfl entered t _).of_keeps admitted
    · next entered answer =>
      rw [answer] at admitted
      exact ⟨.keeps admitted, rfl, rfl, rfl, trivial⟩
  | filtered origin => exact ⟨.keeps (.inSession ex _ _), rfl, rfl, rfl, trivial⟩
  | confirm => exact ⟨.keeps (.inSession ex _ _), rfl, rfl, rfl, trivial⟩
  | refresh category => exact stepsPlain_stepRefresh ex t category
  | settled category => exact stepsPlain_stepSettled ex t category
  | locked category => exact stepsPlain_stepLocked ex t category
  | checked r =>
    dsimp only
    split <;> exact stepsPlain_checkNext ex t _
  | refreshAll => exact ⟨.keeps (.refl ex), rfl, rfl, rfl, rfl⟩
  | turns rest reports =>
    dsimp only
    split
    · split <;> exact ⟨.keeps (.refl ex), rfl, rfl, rfl, rfl⟩
    · refine ⟨.keeps (.refl ex), rfl, rfl, rfl, ?_⟩
      dsimp only
      split
      · rfl
      · trivial
  | ticking =>
    dsimp only
    split
    · exact ⟨.keeps (.refl ex), rfl, rfl, rfl, trivial⟩
    · exact ⟨.keeps (.refl ex), rfl, rfl, rfl, rfl⟩
  | tick due =>
    dsimp only
    split
    · exact ⟨.keeps (.refl ex), rfl, rfl, rfl, trivial⟩
    · exact ⟨.keeps (.inSession ex _ _), rfl, rfl, rfl, rfl⟩
  | night =>
    dsimp only
    split
    · split
      · exact ⟨.keeps (.refl ex), rfl, rfl, rfl, trivial⟩
      · exact ⟨.keeps (.refl ex), rfl, rfl, rfl, rfl⟩
    · exact ⟨.keeps (.refl ex), rfl, rfl, rfl, trivial⟩
  | nightly =>
    refine ⟨.keeps (.refl ex), rfl, rfl, rfl, ?_⟩
    dsimp only
    split
    · trivial
    · rfl
  -- These two are the stages of a dispatcher.
  | dispatching n | permitted n event =>
    rw [stage] at plain
    cases plain


end Executor

end CategoryFilter
