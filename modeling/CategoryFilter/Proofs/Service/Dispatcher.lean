/-
**The dispatcher among the tasks.**

Whatever runs, the dispatcher `Works`: what shows of it can come to a dispatcher in the sense of `Dispatch`,
and it waits only if there is nothing that it can do.

* `Serves`: the dispatcher is at its work between the runs of tasks; `Quiet` and `Drives`: while it runs.
* `Drives.goesTo_step`: what it does in a step is what a dispatcher performs.
* `Serves.finish`: a detection that finishes gives its permit back, and that may wake the dispatcher.
* `Drives.runTask`, `Serves.runTask`: a whole run of the dispatcher, and of another task.
-/

import CategoryFilter.Proofs.Service.View

namespace CategoryFilter

/-- A task after a step, with its turn if it waits. -/
def Next.task (turn : Nat) (t : Task) : Next → Task
  | .go stage => { t with stage := stage }
  | .wait stage reason => { t with stage := stage, waiting := some (reason, turn) }
  | .done _ => t

namespace Executor

open Dispatch (Acts Performs)
open Relation (ReflTransGen)

variable {ex mid other : Executor} {t : Task} {d n : Nat} {ids : List Nat} {stage : Stage}

/-! ### The dispatcher while others run -/

/-- A dispatcher at its work: where it can be, what a dispatcher can come to, and made to wait only if
there is nothing that it can do. -/
structure Works (n : Nat) (ex : Executor) (t : Task) : Prop where
  placed : Placed n t.stage t.waiting
  reachable : (ex.view n t).Reachable
  stuck : t.waiting.isSome → ∀ w, ¬ Acts (ex.view n t) w

theorem Works.of_view (works : Works n ex t) (same : other.view n t = ex.view n t) : Works n other t := by
  refine ⟨works.placed, ?_, ?_⟩
  · rw [same]
    exact works.reachable
  · rw [same]
    exact works.stuck

/-- The dispatcher is at its work if it goes on. -/
structure Serves (d n : Nat) (ex : Executor) : Prop extends Orderly d n ex where
  once : ex.ready.count d ≤ 1
  asleep : ∀ t ∈ ex.tasks, t.id = d → t.waiting.isSome → d ∉ ex.ready
  goes : ∀ t ∈ ex.tasks, t.id = d → ex.GoesOn t → Works n ex t

namespace Serves

/-- Something happens that does not wake the dispatcher. -/
theorem apart (serves : Serves d n ex) (orderly : Orderly d n other)
    (ready : other.ready.count d = ex.ready.count d)
    (tasks : ∀ t ∈ other.tasks, t.id = d → t ∈ ex.tasks)
    (works : ∀ t ∈ other.tasks, t.id = d → Works n ex t → Works n other t) : Serves d n other := by
  have listed : d ∈ other.ready ↔ d ∈ ex.ready := by
    rw [← List.count_pos_iff, ready, List.count_pos_iff]
  refine ⟨orderly, ready ▸ serves.once, fun t there own waits => ?_, fun t there own goes => ?_⟩
  · rw [listed]
    exact serves.asleep t (tasks t there own) own waits
  · have earlier : ex.GoesOn t := by
      unfold GoesOn at goes ⊢
      rwa [own, listed, ← own] at goes
    exact works t there own (serves.goes t (tasks t there own) own earlier)

/-- Something happens that wakes the dispatcher. -/
theorem woken (serves : Serves d n ex) (orderly : Orderly d n mid) (ready : mid.ready = ex.ready)
    (tasks : ∀ t ∈ mid.tasks, t.id = d → t ∈ ex.tasks) (once : ids.count d = 1) (there : t ∈ ex.tasks)
    (own : t.id = d) (waits : t.waiting.isSome)
    (reaches : (mid.view n { t with waiting := none }).Reachable) :
    Serves d n (mid.wakeAll ids) := by
  have form : ∀ s ∈ (mid.wakeAll ids).tasks, s.id = d → s = { t with waiting := none } := by
    intro _ form same
    rw [wakeAll_eq] at form
    obtain ⟨s, listed, rfl⟩ := List.mem_map.mp form
    rw [Task.id_wokenIn] at same
    have called : s.id ∈ ids := List.count_pos_iff.mp (by rw [same, once]; exact Nat.one_pos)
    rw [Task.wokenIn_of_mem called, serves.unique (tasks s listed same) there (same.trans own.symm)]
  refine ⟨orderly.wakeAll ids, ?_, fun s listed same waits => ?_, fun s listed same _ => ?_⟩
  · have idle := List.count_eq_zero.mpr (serves.asleep t there own waits)
    exact Nat.le_of_eq (by rw [wakeAll_eq, List.count_append, ready, idle, once])
  · rw [form s listed same] at waits
    cases waits
  · rw [form s listed same]
    refine ⟨(serves.goes t there own (.inl waits)).placed.woken, ?_, nofun⟩
    rwa [view_wakeAll]

theorem alike (serves : Serves d n ex) (same : Alike ex other) : Serves d n other := by
  refine serves.apart (serves.toOrderly.alike same) ?_ ?_ fun t _ _ works => ?_
  · rw [same.ready]
  · rw [same.tasks]
    exact fun t there _ => there
  · exact works.of_view (view_alike same n t)

/-- What a dispatcher that waits, waits for. -/
theorem reason_eq (serves : Serves d n ex) (there : t ∈ ex.tasks) (own : t.id = d) {reason : Wait}
    {turn : Nat} (waits : t.waiting = some (reason, turn)) : reason = .event n ∨ reason = .permit := by
  have placed := (serves.goes t there own (.inl (by rw [waits]; rfl))).placed
  generalize t.stage = stage at placed
  rw [waits] at placed
  cases placed with
  | idle => exact .inl rfl
  | blocked => exact .inr rfl

/-- Tasks are woken, but not the dispatcher. -/
theorem wakeAll (serves : Serves d n ex) (others : d ∉ ids) : Serves d n (ex.wakeAll ids) := by
  refine serves.apart (serves.toOrderly.wakeAll ids) ?_ ?_ fun t _ _ works => ?_
  · rw [wakeAll_eq, List.count_append, List.count_eq_zero.mpr others, Nat.add_zero]
  · intro t there own
    rw [wakeAll_eq] at there
    obtain ⟨s, listed, rfl⟩ := List.mem_map.mp there
    rw [Task.id_wokenIn] at own
    rwa [Task.wokenIn_of_notMem (own ▸ others)]
  · exact works.of_view (view_wakeAll ex ids n t)

theorem spares (serves : Serves d n ex) (spares : Spares ex other) : Serves d n other := by
  cases spares with
  | keeps same => exact serves.alike same.toAlike
  | @woken t category turn there waits same =>
    have others : d ∉ [t.id] := by
      intro own
      rcases serves.reason_eq there (List.mem_singleton.mp own).symm waits with lock | lock <;> cases lock
    exact (serves.wakeAll others).alike same.toAlike

end Serves

/-! ### The dispatcher while it runs -/

/-- The dispatcher runs: it is not ready and does not wait. -/
structure Quiet (d n : Nat) (ex : Executor) : Prop extends Orderly d n ex where
  popped : d ∉ ex.ready
  still : ∀ t ∈ ex.tasks, t.id = d → t.waiting = none

namespace Quiet

theorem serves (quiet : Quiet d n ex) : Serves d n ex := by
  refine ⟨quiet.toOrderly, ?_, fun t there own waits => ?_, fun t there own goes => ?_⟩
  · rw [List.count_eq_zero.mpr quiet.popped]
    exact Nat.zero_le _
  · rw [quiet.still t there own] at waits
    cases waits
  · rcases goes with waits | ready
    · rw [quiet.still t there own] at waits
      cases waits
    · exact absurd (own ▸ ready) quiet.popped

theorem alike (quiet : Quiet d n ex) (same : Alike ex other) : Quiet d n other := by
  refine ⟨quiet.toOrderly.alike same, ?_, ?_⟩
  · rw [same.ready]
    exact quiet.popped
  · rw [same.tasks]
    exact quiet.still

theorem setChannel (quiet : Quiet d n ex) (c : Channel) : Quiet d n (ex.setChannel n c) :=
  ⟨quiet.toOrderly.setChannel c, quiet.popped, quiet.still⟩

theorem setPermits (quiet : Quiet d n ex) (count : Nat) : Quiet d n (ex.setPermits d count) :=
  ⟨quiet.toOrderly.setPermits count, quiet.popped, quiet.still⟩

theorem spawn (quiet : Quiet d n ex) (session : Nat) (plain : stage.dispatches = false)
    {permit : Option Nat} (own : ∀ p, permit = some p → p = d) :
    Quiet d n (ex.spawn session stage permit).1 := by
  refine ⟨quiet.toOrderly.spawn session plain own, ?_, ?_⟩
  · intro ready
    rcases List.mem_append.mp ready with ready | new
    · exact quiet.popped ready
    · exact Nat.ne_of_lt quiet.known (List.mem_singleton.mp new)
  · intro t there same
    rcases List.mem_append.mp there with there | new
    · exact quiet.still t there same
    · rw [List.mem_singleton.mp new]

end Quiet

/-- The dispatcher runs and has come to a stage. -/
structure Drives (d n : Nat) (ex : Executor) (t : Task) : Prop extends Quiet d n ex where
  id : t.id = d
  permit : t.permit = none
  works : Works n ex t

/-- How the dispatcher goes on. -/
def GoesTo (d n : Nat) (v : Dispatch) : Executor × Task × Next → Prop
  | (ex, t, .done _) => Quiet d n ex ∧ t.id = d ∧ t.permit = none
  | (ex, t, next) => t.waiting = none ∧ ∀ turn,
    Drives d n ex (next.task turn t) ∧ Performs v (ex.view n (next.task turn t))

namespace Drives

/-- The dispatcher has come to a stage by what a dispatcher does. -/
theorem of_performs {v : Dispatch} (reachable : v.Reachable) (quiet : Quiet d n ex) (own : t.id = d)
    (unpermitted : t.permit = none) (placed : Placed n t.stage t.waiting)
    (stuck : t.waiting.isSome → ∀ w, ¬ Acts (ex.view n t) w) (performs : Performs v (ex.view n t)) :
    Drives d n ex t ∧ Performs v (ex.view n t) :=
  ⟨⟨quiet, own, unpermitted, placed, performs.reachable reachable, stuck⟩, performs⟩

theorem goesTo_stepDispatching (drives : Drives d n ex t) (awake : t.waiting = none)
    (stage : t.stage = .dispatching n) : GoesTo d n (ex.view n t) (ex.stepDispatching t n) := by
  obtain ⟨id, session, _, _, turns, isNightly, lock, permit⟩ := t
  obtain rfl : _ = Stage.dispatching n := stage
  obtain rfl : _ = none := awake
  obtain ⟨quiet, own, unpermitted, -, reachable, -⟩ := drives
  obtain rfl : d = id := own.symm
  unfold stepDispatching
  dsimp only
  split
  · exact ⟨quiet.setChannel _, rfl, unpermitted⟩
  split
  · next empty =>
    split
    · have before : ∀ waiting, ex.view n ⟨d, session, .dispatching n, waiting, turns, isNightly, lock,
          permit⟩ = ⟨[], none, ex.freePermits d, ex.running d⟩ := by
        intro waiting
        rw [← empty]
        rfl
      refine ⟨rfl, fun turn => of_performs reachable quiet rfl unpermitted (.idle turn) ?_ ?_⟩
      · dsimp only [Next.task]
        rw [before]
        exact fun _ w => Dispatch.not_acts_idle
      · dsimp only [Next.task]
        rw [before, before]
        exact .rest
    · exact ⟨quiet.setChannel _, rfl, unpermitted⟩
  next event rest queued =>
  have received := quiet.setChannel ((ex.channel n).receive rest)
  have taken := congrArg Channel.events
    (channel_setChannel quiet.channel ((ex.channel n).receive rest))
  have before : ex.view n ⟨d, session, .dispatching n, none, turns, isNightly, lock, permit⟩ =
      ⟨event :: rest, none, (ex.setChannel n ((ex.channel n).receive rest)).freePermits d,
        (ex.setChannel n ((ex.channel n).receive rest)).running d⟩ := by
    rw [← queued]
    rfl
  rw [before] at reachable ⊢
  -- The event is taken. What follows depends on the channel without it, and not on where it came from.
  generalize ex.setChannel n ((ex.channel n).receive rest) = mid at received taken reachable ⊢
  obtain rfl : _ = rest := taken
  cases event with
  | domainDetected name =>
    have receive : Acts _ ⟨(mid.channel n).events, some (.domainDetected name), mid.freePermits d,
      mid.running d⟩ := .receive rfl
    dsimp only
    split
    · next none =>
      refine ⟨rfl, fun turn => of_performs reachable received rfl unpermitted (.blocked name turn) ?_
        (.act receive)⟩
      show true → ∀ w, ¬ Acts ⟨_, some (.domainDetected name), mid.freePermits d, _⟩ w
      rw [none]
      exact fun _ w => Dispatch.not_acts_blocked
    · next free =>
      refine ⟨rfl, fun turn => of_performs reachable (received.setPermits _) rfl unpermitted
        (.releasing name) nofun ?_⟩
      show Performs _ ⟨_, _, (mid.setPermits d (mid.freePermits d - 1)).freePermits d + 1, _⟩
      rw [freePermits_setPermits received.permits, Nat.sub_add_cancel (Nat.pos_of_ne_zero free)]
      exact .act receive
  | filterUpdated category =>
    refine ⟨rfl, fun turn => of_performs reachable (received.spawn session rfl nofun) rfl unpermitted
      .receiving nofun ?_⟩
    show Performs _ ⟨_, _, _, (mid.spawn session (.refresh category) none).1.running d⟩
    rw [running_spawn]
    exact .act (.handle rfl)
  | categoryDeactivated category =>
    have settled := (Keeps.inSession mid session (·.deactivate category)).toAlike
    refine ⟨rfl, fun turn => of_performs reachable (received.alike settled) rfl unpermitted .receiving
      nofun ?_⟩
    rw [view_alike settled]
    exact .act (.handle rfl)

/-- A dispatcher with a permit in hand lets its detection run, or drops it and gives the permit back. -/
theorem goesTo_permitted (drives : Drives d n ex t) (awake : t.waiting = none) {name : String}
    (stage : t.stage = .permitted n (.domainDetected name)) :
    GoesTo d n (ex.view n t) (ex.step t) := by
  obtain ⟨id, session, _, _, turns, isNightly, lock, permit⟩ := t
  obtain rfl : _ = Stage.permitted n (.domainDetected name) := stage
  obtain rfl : _ = none := awake
  obtain ⟨quiet, own, unpermitted, -, reachable, -⟩ := drives
  obtain rfl : d = id := own.symm
  unfold step
  dsimp only
  split
  · exact ⟨quiet.setChannel _, rfl, unpermitted⟩
  cases Domain.normalize name with
  | some domain =>
    refine ⟨rfl, fun turn => of_performs reachable
      (quiet.spawn session rfl fun p same => (Option.some.inj same).symm) rfl unpermitted .receiving
      nofun ?_⟩
    show Performs _ ⟨_, _, _, (ex.spawn session (.detect domain) (some d)).1.running d⟩
    rw [running_spawn, if_pos rfl]
    exact .act .release
  | none =>
    refine ⟨rfl, fun turn => of_performs reachable (quiet.setPermits _) rfl unpermitted .receiving
      nofun ?_⟩
    show Performs _ ⟨_, _, (ex.setPermits d (ex.freePermits d + 1)).freePermits d, _⟩
    rw [freePermits_setPermits quiet.permits]
    exact .drop

/-- **What the dispatcher does in a step** is what a dispatcher does. -/
theorem goesTo_step (drives : Drives d n ex t) (awake : t.waiting = none) :
    GoesTo d n (ex.view n t) (ex.step t) := by
  have placed := drives.works.placed
  rw [awake] at placed
  generalize stage : t.stage = own at placed
  cases placed with
  | receiving =>
    have dispatching : ex.step t = ex.stepDispatching t n := by
      unfold step
      rw [stage]
    rw [dispatching]
    exact drives.goesTo_stepDispatching awake stage
  | releasing name => exact drives.goesTo_permitted awake stage

theorem view_putTask (drives : Drives d n ex t) :
    (({ ex.putTask t with fresh := ex.fresh + 1 } : Executor).view n t) = ex.view n t := by
  have same := running_putTask (t := t) (d := d) fun s there same =>
    ((drives.fits s there).own (same.trans drives.id)).trans drives.permit.symm
  show (⟨_, _, _, (ex.putTask t).running t.id⟩ : Dispatch) = _
  rw [drives.id, same, ← drives.id]
  rfl

theorem eq_of_mem_putTask (drives : Drives d n ex t) {s : Task} (there : s ∈ (ex.putTask t).tasks)
    (own : s.id = d) : s = t := by
  obtain ⟨s', listed, rfl⟩ := List.mem_map.mp there
  split at own
  · next same => exact if_pos same
  · next other => exact absurd (own.trans drives.id.symm) other

/-- A dispatcher that waits is one at its work. -/
theorem serves_putTask (drives : Drives d n ex t) :
    Serves d n { ex.putTask t with fresh := ex.fresh + 1 } := by
  have fits : t.Fits d := by
    refine ⟨fun _ => drives.permit, fun other => absurd drives.id other, fun p held => ?_⟩
    rw [drives.permit] at held
    cases held
  refine ⟨drives.toOrderly.putTask fits, ?_, fun _ _ _ _ => drives.popped, fun s there own _ => ?_⟩
  · exact (List.count_eq_zero.mpr drives.popped).symm ▸ Nat.zero_le 1
  · rw [drives.eq_of_mem_putTask there own]
    exact drives.works.of_view drives.view_putTask

/-- **A run of the dispatcher** keeps it at its work, and there it has performed what it could. -/
theorem runTask (drives : Drives d n ex t) (awake : t.waiting = none) (fuel : Nat) :
    Serves d n (runTask fuel ex t) ∧ ∀ s ∈ (Executor.runTask fuel ex t).tasks, s.id = d →
      (Executor.runTask fuel ex t).GoesOn s →
        ReflTransGen Performs (ex.view n t) ((Executor.runTask fuel ex t).view n s) := by
  induction fuel generalizing ex t with
  | zero =>
    -- Out of fuel the dispatcher neither waits nor is ready, so nothing is said of it.
    refine ⟨drives.serves, fun s there own goes => ?_⟩
    rcases goes with waits | ready
    · rw [drives.still s there own] at waits
      cases waits
    · exact absurd (own ▸ ready) drives.popped
  | succ fuel ih =>
    have goes := drives.goesTo_step awake
    unfold Executor.runTask
    split
    · next after t' stage answer =>
      rw [answer] at goes
      obtain ⟨awake, goes⟩ := goes
      obtain ⟨drives, performs⟩ := goes 0
      obtain ⟨serves, path⟩ := ih drives awake
      exact ⟨serves, fun s there own going => .head performs (path s there own going)⟩
    · next after t' stage reason answer =>
      rw [answer] at goes
      obtain ⟨drives, performs⟩ := goes.2 after.fresh
      refine ⟨drives.serves_putTask, fun s there own _ => ?_⟩
      rw [drives.eq_of_mem_putTask there own]
      exact .single ((congrArg (Performs _) drives.view_putTask).mpr performs)
    · next after t' result answer =>
      rw [answer] at goes
      obtain ⟨quiet, own, unpermitted⟩ := goes
      unfold Executor.finish
      rw [unpermitted]
      have gone : ∀ s ∈ after.tasks.filter (fun other => other.id != t'.id), s.id ≠ d :=
        fun s there same => bne_iff_ne.mp (List.mem_filter.mp there).2 (same.trans own.symm)
      refine ⟨quiet.serves.apart (quiet.toOrderly.filter _ _) rfl ?_ ?_, ?_⟩
      · exact fun s there _ => List.mem_of_mem_filter there
      · exact fun s there same => absurd same (gone s there)
      · exact fun s there same => absurd same (gone s there)

end Drives

/-! ### Other tasks while they run -/

namespace Serves

/-- A task that is no dispatcher waits. -/
theorem putTask (serves : Serves d n ex) (known : ex.Knows t) (apart : t.id ≠ d)
    (plain : t.stage.dispatches = false) : Serves d n { ex.putTask t with fresh := ex.fresh + 1 } := by
  obtain ⟨s, there, same, permit⟩ := known
  have fits : t.Fits d := by
    refine ⟨fun own => absurd own apart, fun _ => plain, ?_⟩
    rw [← permit]
    exact (serves.fits s there).permit
  refine serves.apart (serves.toOrderly.putTask fits) rfl ?_ ?_
  · intro _ put own
    obtain ⟨s', listed, rfl⟩ := List.mem_map.mp put
    split at own
    · exact absurd own apart
    · next other => exact (if_neg other).symm ▸ listed
  · intro s' _ own works
    refine works.of_view ?_
    show (⟨_, _, _, (ex.putTask t).running s'.id⟩ : Dispatch) = _
    rw [running_putTask fun other listed own => ?_]
    · rfl
    · rw [serves.unique listed there (own.trans same.symm)]
      exact permit

/-- **A detection that finishes** gives its permit back, to the dispatcher if it waits for one. -/
theorem finish (serves : Serves d n ex) {s : Task} (there : s ∈ ex.tasks) (permit : s.permit = some d)
    (results : List (Nat × TaskResult)) :
    Serves d n (({ ex with tasks := ex.tasks.filter fun t => t.id != s.id, results } : Executor).returnPermit
      d) := by
  have orderly := serves.toOrderly.filter s.id results
  have running := running_filter serves.toOrderly there
  rw [if_pos permit] at running
  have left : ∀ t ∈ (ex.tasks.filter fun t => t.id != s.id), t.id = d → t ∈ ex.tasks :=
    fun t there _ => List.mem_of_mem_filter there
  unfold returnPermit
  split
  · next id rest found =>
    obtain ⟨t, listed, rfl, reason, turn, waits, passes⟩ :=
      mem_waitingFor.mp (found ▸ List.mem_cons_self)
    rw [Bool.and_eq_true, decide_eq_true_iff] at passes
    obtain ⟨own, passes⟩ := passes
    obtain rfl := of_decide_eq_true passes
    have earlier := left t listed own
    have asleep : t.waiting.isSome := by rw [waits]; rfl
    -- The dispatcher waits for a permit and gets this one: none becomes free.
    show Serves d n (Executor.wakeAll _ [t.id])
    refine serves.woken orderly rfl left ?_ earlier own asleep ?_
    · rw [own, List.count_singleton_self]
    · obtain ⟨placed, reachable, -⟩ := serves.goes t earlier own (.inl asleep)
      obtain ⟨_, session, stage, waiting, turns, isNightly, lock, held⟩ := t
      obtain rfl : _ = d := own
      obtain rfl : waiting = _ := waits
      cases placed with
      | blocked name =>
        unfold view at reachable
        dsimp only at reachable
        rw [← running] at reachable
        exact reachable.tail .finish
  · next none =>
    -- Nobody waits for a permit, so a dispatcher that waits has no event, and a permit more is of no use.
    refine serves.apart (orderly.setPermits _) rfl left fun t listed own works => ?_
    subst own
    refine ⟨works.placed, ?_, ?_⟩
    · have reachable := works.reachable
      unfold view at reachable ⊢
      rw [← running] at reachable
      rw [freePermits_setPermits orderly.permits, Nat.add_right_comm]
      exact reachable.tail .finish
    · intro waits w acts
      have placed := works.placed
      have stuck := works.stuck waits
      cases t with
      | mk id session stage waiting turns isNightly lock held =>
      cases placed with
      | receiving | releasing => cases waits
      | idle turn =>
        have nothing : (ex.view n ⟨id, session, .dispatching n, some (.event n, turn), turns, isNightly, lock,
          held⟩).held = Option.none := rfl
        obtain ⟨w, acts⟩ := Acts.of_free nothing acts
        exact stuck w acts
      | blocked name turn =>
        refine List.ne_nil_of_mem (mem_waitingFor.mpr ⟨_, listed, rfl, .permit, turn, rfl, ?_⟩) none
        exact (Bool.and_eq_true _ _).mpr ⟨decide_eq_true rfl, decide_eq_true rfl⟩

/-- A task that holds no permit finishes. -/
theorem filter (serves : Serves d n ex) {s : Task} (there : s ∈ ex.tasks) (permit : s.permit = none)
    (results : List (Nat × TaskResult)) :
    Serves d n { ex with tasks := ex.tasks.filter fun t => t.id != s.id, results } := by
  have running := running_filter (d := d) serves.toOrderly there
  rw [permit, if_neg nofun] at running
  refine serves.apart (serves.toOrderly.filter s.id _) rfl ?_ fun t _ own works => ?_
  · exact fun t listed _ => List.mem_of_mem_filter listed
  · refine works.of_view ?_
    subst own
    unfold view
    rw [← running]
    rfl

/-- **A run of a task that is no dispatcher.** -/
theorem runTask (serves : Serves d n ex) (fuel : Nat) (known : ex.Knows t) (apart : t.id ≠ d)
    (plain : t.stage.dispatches = false) : Serves d n (runTask fuel ex t) := by
  induction fuel generalizing ex t with
  | zero => exact serves
  | succ fuel ih =>
    have steps := stepsPlain_step plain ex
    have later := serves.spares steps.spares
    have known := steps.knows known
    unfold Executor.runTask
    split
    · next after t' stage answer =>
      rw [answer] at steps later known
      exact ih later known (steps.id ▸ apart) steps.next
    · next after t' stage reason answer =>
      rw [answer] at steps later known
      exact later.putTask known (steps.id ▸ apart) steps.next
    · next after t' result answer =>
      rw [answer] at later known
      obtain ⟨s, there, same, permit⟩ := known
      unfold Executor.finish
      rw [← same, ← permit]
      cases held : s.permit with
      | some dispatcher =>
        obtain rfl := (later.fits s there).permit _ held
        exact later.finish there held _
      | none => exact later.filter there held _

end Serves

end Executor

end CategoryFilter
