/-
**What a service keeps as it goes on.**

Whatever its tasks do and whatever else happens to it, the numbers that it gives stay its own, and each of
its channels goes on by steps of a channel:

* `Tidy`: the numbers of tasks, turns and results are below the next one, and each task is of a session that
  the service knows.
* `proceeds_step`, `proceeds_runTask`: so it is after a step and after a run of a task.
* `Continues.runFirst`, `Continues.runUntilDone`, `Continues.perform`: and after an operation, one lemma for
  each.
* `continues_of_operates`, `tidy_of_operates`: and so after any number of them.
-/

import CategoryFilter.Ingress.Server
import CategoryFilter.Proofs.Service.Channel
import CategoryFilter.Proofs.Service.View

namespace CategoryFilter.Executor

open Relation (ReflTransGen)

variable {ex mid other : Executor} {t : Task} {n m session : Nat} {stage : Stage}

/-! ### Numbers and sessions -/

/-- A session that is the current one or an earlier one. -/
def Hosts (ex : Executor) (session : Nat) : Prop :=
  session = ex.current ∨ session ∈ ex.retired.map Prod.fst

/-- A task with a number that was given and a session that is known. -/
structure Owns (ex : Executor) (t : Task) : Prop where
  id : t.id < ex.fresh
  session : ex.Hosts t.session

/-- The numbers of tasks, turns and results were given, and the sessions of the tasks are known. -/
structure Tidy (ex : Executor) : Prop where
  tasks : ∀ t ∈ ex.tasks, ex.Owns t
  ready : ∀ id ∈ ex.ready, id < ex.fresh
  results : ∀ r ∈ ex.results, r.1 < ex.fresh

theorem tidy_new (state : State) (services : Services) (filterDelay : Nat) (now : Int)
    (random : Nat → Nat) : (new state services filterDelay now random).Tidy :=
  ⟨fun _ => List.not_mem_nil.elim, fun _ => List.not_mem_nil.elim, fun _ => List.not_mem_nil.elim⟩

/-- What was given stays given, and what is known stays known. -/
structure Later (ex other : Executor) : Prop where
  fresh : ex.fresh ≤ other.fresh
  hosts : ∀ session, ex.Hosts session → other.Hosts session

theorem Owns.later (owns : ex.Owns t) (later : Later ex other) : other.Owns t :=
  ⟨Nat.lt_of_lt_of_le owns.id later.fresh, later.hosts _ owns.session⟩

theorem Owns.of_same {s : Task} (owns : ex.Owns s) (id : t.id = s.id) (session : t.session = s.session) :
    ex.Owns t :=
  ⟨id ▸ owns.id, session ▸ owns.session⟩

theorem Later.of_eq (fresh : other.fresh = ex.fresh) (current : other.current = ex.current)
    (retired : other.retired = ex.retired) : Later ex other := by
  refine ⟨Nat.le_of_eq fresh.symm, fun session known => ?_⟩
  unfold Hosts
  rw [current, retired]
  exact known

theorem Keeps.later (same : Keeps ex other) : Later ex other := by
  refine ⟨Nat.le_of_eq same.fresh.symm, fun session known => ?_⟩
  unfold Hosts
  rw [same.current, same.retired]
  exact known

namespace Tidy

theorem of_eq (tidy : ex.Tidy) (later : Later ex other) (tasks : other.tasks = ex.tasks)
    (ready : other.ready = ex.ready) (results : other.results = ex.results) : other.Tidy := by
  refine ⟨?_, ?_, ?_⟩
  · rw [tasks]
    exact fun t there => (tidy.tasks t there).later later
  · rw [ready]
    exact fun id there => Nat.lt_of_lt_of_le (tidy.ready id there) later.fresh
  · rw [results]
    exact fun r there => Nat.lt_of_lt_of_le (tidy.results r there) later.fresh

theorem keeps (tidy : ex.Tidy) (same : Keeps ex other) : other.Tidy :=
  tidy.of_eq same.later same.tasks same.ready same.results

theorem wakeAll (tidy : ex.Tidy) {ids : List Nat} (listed : ∀ id ∈ ids, ∃ t ∈ ex.tasks, t.id = id) :
    (ex.wakeAll ids).Tidy := by
  rw [wakeAll_eq]
  refine ⟨fun t there => ?_, fun id ready => ?_, tidy.results⟩
  · obtain ⟨s, earlier, rfl⟩ := List.mem_map.mp there
    refine ⟨?_, ?_⟩
    · rw [Task.id_wokenIn]
      exact (tidy.tasks s earlier).id
    · rw [Task.session_wokenIn]
      exact (tidy.tasks s earlier).session
  · rcases List.mem_append.mp ready with ready | woken
    · exact tidy.ready id ready
    · obtain ⟨t, there, rfl⟩ := listed id woken
      exact (tidy.tasks t there).id

theorem waitingFor (tidy : ex.Tidy) (test : Task → Wait → Bool) :
    (ex.wakeAll (ex.waitingFor test)).Tidy := by
  refine tidy.wakeAll fun id waits => ?_
  obtain ⟨t, there, own, -⟩ := mem_waitingFor.mp waits
  exact ⟨t, there, own⟩

theorem spawn (tidy : ex.Tidy) (known : ex.Hosts session) (stage : Stage) (permit : Option Nat) :
    (ex.spawn session stage permit).1.Tidy := by
  refine ⟨fun t there => ?_, fun id ready => ?_, fun r there => ?_⟩
  · rcases List.mem_append.mp there with there | new
    · exact ⟨Nat.lt_succ_of_lt (tidy.tasks t there).id, (tidy.tasks t there).session⟩
    · rw [List.mem_singleton.mp new]
      exact ⟨Nat.lt_succ_self _, known⟩
  · rcases List.mem_append.mp ready with ready | new
    · exact Nat.lt_succ_of_lt (tidy.ready id ready)
    · rw [List.mem_singleton.mp new]
      exact Nat.lt_succ_self _
  · exact Nat.lt_succ_of_lt (tidy.results r there)

end Tidy

/-! ### Channels -/

/-- Every channel that is there goes on by steps of a channel. -/
def ChannelsGo (ex other : Executor) : Prop :=
  ∀ n < ex.channels.length, n < other.channels.length ∧
    ReflTransGen Channel.Step (ex.channel n) (other.channel n)

namespace ChannelsGo

theorem of_eq (same : other.channels = ex.channels) : ChannelsGo ex other := by
  unfold ChannelsGo channel
  rw [same]
  exact fun n there => ⟨there, .refl⟩

theorem trans (first : ChannelsGo ex mid) (second : ChannelsGo mid other) : ChannelsGo ex other := by
  intro n there
  obtain ⟨there, before⟩ := first n there
  exact ⟨(second n there).1, before.trans (second n there).2⟩

theorem setChannel {c : Channel} (run : ReflTransGen Channel.Step (ex.channel m) c) :
    ChannelsGo ex (ex.setChannel m c) := by
  intro n there
  have length : (ex.setChannel m c).channels.length = ex.channels.length := List.length_set
  refine ⟨length ▸ there, ?_⟩
  by_cases same : m = n
  · subst same
    rw [channel_setChannel there]
    exact run
  · have apart : (ex.setChannel m c).channel n = ex.channel n := by
      unfold channel Executor.setChannel
      rw [List.getElem?_set_ne same]
    rw [apart]

end ChannelsGo

/-! ### The run of a task -/

/-- What the run of a task keeps. -/
structure Proceeds (t : Task) (ex other : Executor) : Prop where
  tidy : ex.Tidy → ex.Owns t → other.Tidy ∧ other.Owns t
  channels : ChannelsGo ex other

theorem Proceeds.of_later (tidy : ex.Tidy → ex.Owns t → other.Tidy) (later : Later ex other)
    (same : other.channels = ex.channels) : Proceeds t ex other :=
  ⟨fun neat owns => ⟨tidy neat owns, owns.later later⟩, .of_eq same⟩

theorem Proceeds.trans (first : Proceeds t ex mid) (second : Proceeds t mid other) :
    Proceeds t ex other := by
  refine ⟨fun tidy owns => ?_, first.channels.trans second.channels⟩
  obtain ⟨tidy, owns⟩ := first.tidy tidy owns
  exact second.tidy tidy owns

theorem proceeds_keeps (same : Keeps ex other) : Proceeds t ex other :=
  .of_later (fun tidy _ => tidy.keeps same) same.later same.channels

theorem proceeds_spares (spares : Spares ex other) : Proceeds t ex other := by
  cases spares with
  | keeps same => exact proceeds_keeps same
  | @woken s category turn there waits same =>
    have woken : Proceeds t ex (ex.wake s.id) := by
      refine .of_later (fun tidy _ => ?_) (.of_eq rfl rfl rfl) rfl
      exact tidy.wakeAll fun id listed => ⟨s, there, (List.mem_singleton.mp listed).symm⟩
    exact woken.trans (proceeds_keeps same)

theorem proceeds_setChannel {c : Channel} (step : Channel.Step (ex.channel m) c) :
    Proceeds t ex (ex.setChannel m c) := by
  have later : Later ex (ex.setChannel m c) := .of_eq rfl rfl rfl
  exact ⟨fun tidy owns => ⟨tidy.of_eq later rfl rfl rfl, owns.later later⟩, .setChannel (.single step)⟩

theorem proceeds_setPermits (ex : Executor) (dispatcher count : Nat) :
    Proceeds t ex (ex.setPermits dispatcher count) := by
  have later : Later ex (ex.setPermits dispatcher count) := .of_eq rfl rfl rfl
  exact .of_later (fun tidy _ => tidy.of_eq later rfl rfl rfl) later rfl

theorem proceeds_spawn (ex : Executor) (stage : Stage) (permit : Option Nat) :
    Proceeds t ex (ex.spawn t.session stage permit).1 :=
  .of_later (fun tidy owns => tidy.spawn owns.session stage permit)
    ⟨Nat.le_succ _, fun _ known => known⟩ rfl

/-- What a step of a task keeps, with the number and the session of the task. -/
structure StepsOn (t : Task) (ex : Executor) (after : Executor × Task × Next) : Prop where
  proceeds : Proceeds t ex after.1
  id : after.2.1.id = t.id
  session : after.2.1.session = t.session

theorem proceeds_stepDispatching (ex : Executor) (t : Task) (m : Nat) :
    StepsOn t ex (ex.stepDispatching t m) := by
  unfold stepDispatching endDispatcher
  dsimp only
  split
  · exact ⟨proceeds_setChannel (.closed _), rfl, rfl⟩
  split
  · split
    · exact ⟨proceeds_keeps (.refl ex), rfl, rfl⟩
    · exact ⟨proceeds_setChannel (.closed _), rfl, rfl⟩
  next event rest line =>
  have received : Proceeds t ex (ex.setChannel m ((ex.channel m).receive rest)) :=
    proceeds_setChannel (.received line)
  cases event with
  | domainDetected name =>
    dsimp only
    split
    · exact ⟨received, rfl, rfl⟩
    · exact ⟨received.trans (proceeds_setPermits _ _ _), rfl, rfl⟩
  | filterUpdated category => exact ⟨received.trans (proceeds_spawn _ _ _), rfl, rfl⟩
  | categoryDeactivated category =>
    exact ⟨received.trans (proceeds_keeps (.inSession _ _ _)), rfl, rfl⟩

/-- **What a step of any task keeps.** -/
theorem proceeds_step (ex : Executor) (t : Task) : StepsOn t ex (ex.step t) := by
  cases plain : t.stage.dispatches with
  | false =>
    have steps := stepsPlain_step plain ex
    exact ⟨proceeds_spares steps.spares, steps.id, steps.session⟩
  | true =>
    unfold step
    cases stage : t.stage with
    | dispatching m => exact proceeds_stepDispatching ex t m
    | permitted m event =>
      dsimp only
      split
      · split
        · exact ⟨proceeds_setChannel (.closed _), rfl, rfl⟩
        · refine ⟨?_, rfl, rfl⟩
          dsimp only
          split
          · exact proceeds_spawn ex _ _
          · exact proceeds_setPermits ex _ _
      · exact ⟨proceeds_keeps (.refl ex), rfl, rfl⟩
    | _ =>
      rw [stage] at plain
      cases plain

theorem proceeds_finish (ex : Executor) (t : Task) (result : TaskResult) :
    Proceeds t ex (ex.finish t result) := by
  have done : Proceeds t ex { ex with
      tasks := ex.tasks.filter fun other => other.id != t.id
      results := ex.results ++ [(t.id, result)] } := by
    refine .of_later (fun tidy owns => ?_) (.of_eq rfl rfl rfl) rfl
    refine ⟨fun s there => ?_, tidy.ready, fun r there => ?_⟩
    · have owned := tidy.tasks s (List.mem_of_mem_filter there)
      exact ⟨owned.id, owned.session⟩
    · rcases List.mem_append.mp there with there | new
      · exact tidy.results r there
      · rw [List.mem_singleton.mp new]
        exact owns.id
  unfold finish
  cases t.permit with
  | none => exact done
  | some dispatcher =>
    refine done.trans ?_
    dsimp only
    generalize ({ ex with
      tasks := ex.tasks.filter fun other => other.id != t.id
      results := ex.results ++ [(t.id, result)] } : Executor) = after
    unfold returnPermit
    split
    · next id rest waits =>
      obtain ⟨s, there, own, -⟩ := mem_waitingFor.mp (waits ▸ List.mem_cons_self)
      refine .of_later (fun tidy _ => ?_) (.of_eq rfl rfl rfl) rfl
      exact tidy.wakeAll fun other listed =>
        ⟨s, there, own.trans (List.mem_singleton.mp listed).symm⟩
    · exact proceeds_setPermits after _ _

/-- **What the run of a task keeps.** -/
theorem proceeds_runTask (fuel : Nat) (ex : Executor) (t : Task) : Proceeds t ex (runTask fuel ex t) := by
  induction fuel generalizing ex t with
  | zero => exact proceeds_keeps (.refl ex)
  | succ fuel ih =>
    have steps := proceeds_step ex t
    -- The task is known by its number and its session, which it keeps.
    have follows : ∀ {s : Task} {after other : Executor}, s.id = t.id → s.session = t.session →
        Proceeds s after other → Proceeds t after other := fun id session proceeds =>
      ⟨fun tidy owns => ((proceeds.tidy tidy (owns.of_same id session)).imp_right
        fun owns => owns.of_same id.symm session.symm), proceeds.channels⟩
    unfold runTask
    split
    · next after s stage answer =>
      rw [answer] at steps
      exact steps.proceeds.trans (follows (s := { s with stage }) steps.id steps.session (ih after _))
    · next after s stage reason answer =>
      rw [answer] at steps
      refine steps.proceeds.trans (.of_later (fun tidy owns => ?_) ⟨Nat.le_succ _, fun _ known => known⟩ rfl)
      refine ⟨fun other there => ?_, fun id ready => Nat.lt_succ_of_lt (tidy.ready id ready),
        fun r there => Nat.lt_succ_of_lt (tidy.results r there)⟩
      obtain ⟨own, earlier, rfl⟩ := List.mem_map.mp there
      split
      · exact ⟨Nat.lt_succ_of_lt (steps.id ▸ owns.id), steps.session ▸ owns.session⟩
      · have owned := tidy.tasks own earlier
        exact ⟨Nat.lt_succ_of_lt owned.id, owned.session⟩
    · next after s result answer =>
      rw [answer] at steps
      exact steps.proceeds.trans (follows steps.id steps.session (proceeds_finish after s result))

/-! ### Operations -/

/-- What a service keeps from one time to a later one. -/
structure Continues (ex other : Executor) : Prop where
  tidy : ex.Tidy → other.Tidy
  channels : ChannelsGo ex other

namespace Continues

theorem of_eq (later : Later ex other) (tasks : other.tasks = ex.tasks) (ready : other.ready = ex.ready)
    (results : other.results = ex.results) (channels : other.channels = ex.channels) :
    Continues ex other :=
  ⟨fun tidy => tidy.of_eq later tasks ready results, .of_eq channels⟩

theorem refl (ex : Executor) : Continues ex ex :=
  of_eq (.of_eq rfl rfl rfl) rfl rfl rfl rfl

theorem trans (first : Continues ex mid) (second : Continues mid other) : Continues ex other :=
  ⟨fun tidy => second.tidy (first.tidy tidy), first.channels.trans second.channels⟩

theorem inSession {α : Type} (ex : Executor) (session : Nat) (part : State → State × α) :
    Continues ex (ex.inSession session part).1 :=
  have same := Keeps.inSession ex session part
  ⟨fun tidy => tidy.keeps same, .of_eq same.channels⟩

theorem wakeAll (ex : Executor) (test : Task → Wait → Bool) :
    Continues ex (ex.wakeAll (ex.waitingFor test)) :=
  ⟨fun tidy => tidy.waitingFor test, .of_eq (channels_wakeAll ex _)⟩

theorem spawn (ex : Executor) (stage : Stage) (permit : Option Nat) :
    Continues ex (ex.spawn ex.current stage permit).1 :=
  ⟨fun tidy => tidy.spawn (.inl rfl) stage permit, .of_eq rfl⟩

theorem reorder {ready : List Nat} (given : ex.Tidy → ∀ id ∈ ready, id < ex.fresh) :
    Continues ex { ex with ready } :=
  ⟨fun tidy => ⟨fun t there => (tidy.tasks t there).later (.of_eq rfl rfl rfl), given tidy, tidy.results⟩,
    .of_eq rfl⟩

/-- Some results are taken away. -/
theorem collect (ex : Executor) (kept : Nat × TaskResult → Bool) :
    Continues ex { ex with results := ex.results.filter kept } :=
  ⟨fun tidy => ⟨fun t there => (tidy.tasks t there).later (.of_eq rfl rfl rfl), tidy.ready,
    fun r there => tidy.results r (List.mem_of_mem_filter there)⟩, .of_eq rfl⟩

theorem setChannel {c : Channel} (run : ReflTransGen Channel.Step (ex.channel m) c) :
    Continues ex (ex.setChannel m c) :=
  ⟨fun tidy => tidy.of_eq (.of_eq rfl rfl rfl) rfl rfl rfl, .setChannel run⟩

theorem runFirst (ex : Executor) : Continues ex ex.runFirst := by
  unfold Executor.runFirst
  split
  · exact refl ex
  · next id rest line =>
    have popped : Continues ex { ex with ready := rest } :=
      reorder fun tidy other there => tidy.ready other (line ▸ List.mem_cons_of_mem _ there)
    dsimp only
    split
    · next t found =>
      have there := (mem_of_task? found).1
      have proceeds := proceeds_runTask stepBound { ex with ready := rest } t
      refine popped.trans ⟨fun tidy => ?_, proceeds.channels⟩
      exact (proceeds.tidy tidy (tidy.tasks t there)).1
    · exact popped

theorem moveTo (ex : Executor) (due : Int) (first : Option Nat) : Continues ex (ex.moveTo due first) := by
  have later : Continues ex { ex with now := due } := of_eq (.of_eq rfl rfl rfl) rfl rfl rfl rfl
  unfold Executor.moveTo
  dsimp only
  refine later.trans ⟨fun tidy => tidy.wakeAll fun id woken => ?_, .of_eq (channels_wakeAll _ _)⟩
  rw [List.partition_eq_filter_filter] at woken
  obtain ⟨t, there, own, -⟩ := mem_waitingFor.mp
    ((List.mem_append.mp woken).elim List.mem_of_mem_filter List.mem_of_mem_filter)
  exact ⟨t, there, own⟩

theorem runReady (fuel : Nat) (ex : Executor) : Continues ex (Executor.runReady fuel ex) := by
  induction fuel generalizing ex with
  | zero => exact refl ex
  | succ fuel ih =>
    unfold Executor.runReady
    split
    · exact refl ex
    · exact (runFirst ex).trans (ih _)

theorem runUntilDone (fuel : Nat) (ex : Executor) (id : Nat) :
    Continues ex (Executor.runUntilDone fuel ex id) := by
  induction fuel generalizing ex with
  | zero => exact refl ex
  | succ fuel ih =>
    unfold Executor.runUntilDone
    split
    · exact refl ex
    split
    · split
      · exact (moveTo ex _ _).trans (ih _)
      · exact refl ex
    · exact (runFirst ex).trans (ih _)

theorem sleep (ex : Executor) (millis : Nat) : Continues ex (ex.sleep millis) := by
  have arrive : ∀ (ex : Executor) (target : Int), Continues ex { ex with now := target } :=
    fun _ _ => of_eq (.of_eq rfl rfl rfl) rfl rfl rfl rfl
  have sleepTo : ∀ (fuel : Nat) (ex : Executor) (target : Int),
      Continues ex (Executor.sleepTo fuel ex target) := by
    intro fuel
    induction fuel with
    | zero => exact arrive
    | succ fuel ih =>
      intro ex target
      unfold Executor.sleepTo
      dsimp only
      split
      · split
        · exact (runReady _ _).trans ((moveTo _ _ _).trans (ih _ _))
        · exact (runReady _ _).trans (arrive _ _)
      · exact (runReady _ _).trans (arrive _ _)
  exact sleepTo _ _ _

theorem await (ex : Executor) (id : Nat) : Continues ex (ex.await id).1 :=
  (runUntilDone stepBound ex id).trans ((collect _ _).trans (runReady _ _))

theorem perform (ex : Executor) (stage : Stage) : Continues ex (ex.perform stage).1 := by
  have first : Continues (ex.spawn ex.current stage none).1 { (ex.spawn ex.current stage none).1 with
      ready := ex.fresh :: (ex.spawn ex.current stage none).1.ready.filter (· != ex.fresh) } := by
    refine reorder fun tidy id there => ?_
    rcases List.mem_cons.mp there with rfl | there
    · exact Nat.lt_succ_self _
    · exact tidy.ready id (List.mem_of_mem_filter there)
  exact (spawn ex stage none).trans (first.trans ((runUntilDone _ _ _).trans (collect _ _)))

theorem start (ex : Executor) (stage : Stage) : Continues ex (ex.start stage).1 :=
  (spawn ex stage none).trans (runReady _ _)

theorem handleEvent (ex : Executor) (event : Event) : Continues ex (ex.handleEvent event).1 := by
  unfold Executor.handleEvent
  cases event with
  | domainDetected raw =>
    dsimp only
    split
    · exact perform ex _
    · exact refl ex
  | filterUpdated category => exact (spawn ex _ none).trans (await _ _)
  | categoryDeactivated category => exact inSession ex _ _

theorem send (ex : Executor) (n : Nat) (event : Event) : Continues ex (ex.send n event).1 := by
  unfold Executor.send
  dsimp only
  split
  · next accepts => exact (setChannel (.single (.sent event accepts))).trans (wakeAll _ _)
  · exact refl ex

theorem serve (ex : Executor) (intake : Intake) (n : Nat) (r : HttpRequest) :
    Continues ex (ex.serve intake n r).1 := by
  have handled : Continues ex { ex with state := (Ingress.handle intake ex.state ex.score r).1 } :=
    of_eq (.of_eq rfl rfl rfl) rfl rfl rfl rfl
  unfold Executor.serve
  dsimp only
  split
  · exact handled
  · next event _ =>
    have sent := send { ex with state := (Ingress.handle intake ex.state ex.score r).1 } n event
    split
    · next after number answer =>
      rw [answer] at sent
      exact handled.trans sent
    · next after answer =>
      rw [answer] at sent
      exact handled.trans sent

theorem stop (ex : Executor) : Continues ex ex.stop := by
  unfold Executor.stop
  dsimp only
  refine trans ?_ (wakeAll _ _)
  exact of_eq (.of_eq rfl rfl rfl) rfl rfl rfl rfl

theorem restart (ex : Executor) : Continues ex ex.restart := by
  refine of_eq ⟨Nat.le_refl _, fun session known => .inr ?_⟩ rfl rfl rfl rfl
  show session ∈ (ex.retired ++ [(ex.current, ex.state.session)]).map Prod.fst
  rw [List.map_append, List.mem_append]
  rcases known with rfl | earlier
  · exact .inr (List.mem_singleton_self _)
  · exact .inl earlier

theorem spawnDispatcher (ex : Executor) (n : Nat) : Continues ex (ex.spawnDispatcher n).1 :=
  (spawn ex _ none).trans (of_eq (.of_eq rfl rfl rfl) rfl rfl rfl rfl)

theorem startService (ex : Executor) : Continues ex ex.startService.1 := by
  have opened : Continues ex { ex with channels := ex.channels ++ [Channel.new] } := by
    refine ⟨fun tidy => tidy.of_eq (.of_eq rfl rfl rfl) rfl rfl rfl, fun n there => ⟨?_, ?_⟩⟩
    · exact Nat.lt_of_lt_of_le there (by simp)
    · unfold channel
      dsimp only
      rw [List.getElem?_append_left there]
  exact opened.trans ((spawn _ _ none).trans ((spawn _ _ none).trans (spawnDispatcher _ _)))

end Continues

/-- What is done with a service. -/
inductive Operates (ex : Executor) : Executor → Prop
  /-- Its loops begin, or one dispatcher. -/
  | started : Operates ex ex.startService.1
  | dispatched (n : Nat) : Operates ex (ex.spawnDispatcher n).1
  /-- A request is served. -/
  | served (intake : Intake) (n : Nat) (r : HttpRequest) : Operates ex (ex.serve intake n r).1
  /-- An event is sent or handled. -/
  | sent (n : Nat) (event : Event) : Operates ex (ex.send n event).1
  | handled (event : Event) : Operates ex (ex.handleEvent event).1
  /-- An operation is done at once, begins as a task, or is waited for. -/
  | performed (stage : Stage) : Operates ex (ex.perform stage).1
  | began (stage : Stage) : Operates ex (ex.start stage).1
  | awaited (id : Nat) : Operates ex (ex.await id).1
  /-- The first task that is ready runs. -/
  | ran : Operates ex ex.runFirst
  /-- Time goes on. -/
  | waited (due : Int) (first : Option Nat) : Operates ex (ex.moveTo due first)
  | slept (millis : Nat) : Operates ex (ex.sleep millis)
  /-- A session ends, or another begins. -/
  | stopped : Operates ex ex.stop
  | restarted : Operates ex ex.restart
  /-- A channel is emptied, or nobody receives from it or sends to it any more. -/
  | emptied (n : Nat) : Operates ex (ex.receiveAll n).1
  | closed (n : Nat) : Operates ex (ex.closeChannel n)
  | starved (n : Nat) : Operates ex (ex.dropSender n)
  /-- The examiner is changed otherwise. -/
  | within {α : Type} (part : State → State × α) : Operates ex (ex.inSession ex.current part).1
  /-- What surrounds the service is changed. -/
  | around (zone : Zone) (services : Services) (filterDelay : Nat) :
      Operates ex { ex with zone, services, filterDelay }

/-- **What a service keeps as it goes on.** -/
theorem continues_of_operates (goes : ReflTransGen Operates ex other) : Continues ex other := by
  induction goes with
  | refl => exact .refl ex
  | tail _ operates ih =>
    refine ih.trans ?_
    cases operates with
    | started => exact .startService _
    | dispatched n => exact .spawnDispatcher _ n
    | served intake n r => exact .serve _ intake n r
    | sent n event => exact .send _ n event
    | handled event => exact .handleEvent _ event
    | performed stage => exact .perform _ stage
    | began stage => exact .start _ stage
    | awaited id => exact .await _ id
    | ran => exact .runFirst _
    | waited due first => exact .moveTo _ due first
    | slept millis => exact .sleep _ millis
    | stopped => exact .stop _
    | restarted => exact .restart _
    | emptied n => exact .setChannel (Channel.receiveAll_run _)
    | closed n => exact .setChannel (.single (.closed _))
    | starved n => exact (Continues.setChannel (.single (.starved _))).trans (.wakeAll _ _)
    | within part => exact .inSession _ _ part
    | around => exact .of_eq (.of_eq rfl rfl rfl) rfl rfl rfl rfl

/-- A service that has begun stays tidy. -/
theorem tidy_of_operates {state : State} {services : Services} {filterDelay : Nat} {now : Int}
    {random : Nat → Nat}
    (goes : ReflTransGen Operates (new state services filterDelay now random) ex) : ex.Tidy :=
  (continues_of_operates goes).tidy (tidy_new state services filterDelay now random)

end CategoryFilter.Executor
