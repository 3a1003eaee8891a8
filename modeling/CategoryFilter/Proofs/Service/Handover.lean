/-
**When the events in the life of a category are handed over.**

A service that has started goes on: events are sent to the dispatcher, tasks begin, run and wait, time goes
on. As long as nobody stops it, its dispatcher is one in the sense of `Dispatch`:

* `Happens`: what happens to a service.
* `Serves.happens`, `Serves.start`: the dispatcher stays at its work, from the start on.
* `Serves.follows`: so what can come to it, what it waits for and what it does in a run is as in `Dispatch`.
* `hands_over_lifecycle_iff`: the dispatcher comes to an event in the life of a category by itself exactly
  if the detections that run, are held or are before the event are not more than `maxDetections`.
* `deactivation_stuck`: behind one detection more than that, a deactivation waits until one finishes.
-/

import CategoryFilter.Proofs.Ingress
import CategoryFilter.Proofs.Service.Dispatcher

namespace CategoryFilter

namespace Executor

open Relation (ReflTransGen)

variable {ex other : Executor} {t : Task} {d n : Nat} {ids : List Nat} {event : Event} {stage : Stage}

/-- Put an event on a channel, without waking anybody. -/
def queue (ex : Executor) (n : Nat) (event : Event) : Executor :=
  ex.setChannel n ((ex.channel n).send event)

theorem send_eq (ex : Executor) (n : Nat) (event : Event) : (ex.send n event).1 =
    if (ex.channel n).accepts then (ex.queue n event).wakeReceiver n else ex := by
  unfold send
  dsimp only
  split <;> rfl

/-- What happens to a service whose dispatcher receives from a channel, as long as nobody stops it. -/
inductive Happens (n : Nat) : Executor → Executor → Prop
  /-- An event is sent to the channel. -/
  | sent (ex : Executor) (event : Event) : Happens n ex (ex.send n event).1
  /-- The first task that is ready runs. -/
  | ran (ex : Executor) : Happens n ex ex.runFirst
  /-- Time goes on. -/
  | waited (ex : Executor) (due : Int) (first : Option Nat) : Happens n ex (ex.moveTo due first)
  /-- A task begins that is no dispatcher and holds no permit. -/
  | began (ex : Executor) (session : Nat) {stage : Stage} (plain : stage.dispatches = false) :
      Happens n ex (ex.spawn session stage none).1
  /-- Another of the tasks that are ready is the first one. -/
  | reordered (ex : Executor) {ready : List Nat} (same : ready.Perm ex.ready) :
      Happens n ex { ex with ready }
  /-- Something else happens than to the tasks, the permits and the channels. -/
  | elsewhere {ex other : Executor} (same : Alike ex other) : Happens n ex other

theorem view_queue (channel : n < ex.channels.length) (event : Event) (t : Task) :
    (ex.queue n event).view n t =
      { ex.view n t with queued := (ex.view n t).queued ++ [event] } := by
  unfold view queue
  rw [channel_setChannel channel]
  rfl

/-- A dispatcher that does not wait for an event is at its work when one comes. -/
theorem Works.queue (works : Works n ex t) (channel : n < ex.channels.length)
    (other : ∀ turn, t.waiting ≠ some (.event n, turn)) (event : Event) :
    Works n (ex.queue n event) t := by
  refine ⟨works.placed, ?_, fun waits w acts => ?_⟩
  · rw [view_queue channel]
    exact works.reachable.tail (.send _ event)
  · rw [view_queue channel] at acts
    have held : (ex.view n t).held.isSome := by
      have placed := works.placed
      cases t with
      | mk id session stage waiting =>
      cases placed with
      | receiving | releasing => cases waits
      | idle turn => exact absurd rfl (other turn)
      | blocked => rfl
    obtain ⟨w, acts⟩ := acts.of_queued held
    exact works.stuck waits w acts

namespace Serves

theorem send (serves : Serves d n ex) (event : Event) : Serves d n (ex.send n event).1 := by
  have orderly : Orderly d n (ex.queue n event) := serves.toOrderly.setChannel _
  rw [send_eq]
  split
  · unfold wakeReceiver
    by_cases called : d ∈ (ex.queue n event).waitingFor fun _ reason => reason = .event n
    · obtain ⟨t, there, own, reason, turn, waits, passes⟩ := mem_waitingFor.mp called
      obtain rfl := of_decide_eq_true passes
      have asleep : t.waiting.isSome := by rw [waits]; rfl
      have once := List.count_eq_one_of_mem (orderly.nodup_waitingFor _) called
      refine serves.woken orderly rfl (fun _ there _ => there) once there own asleep ?_
      rw [view_queue serves.channel]
      obtain ⟨placed, reachable, -⟩ := serves.goes t there own (.inl asleep)
      obtain ⟨_, session, stage, waiting, turns, isNightly, lock, held⟩ := t
      obtain rfl : waiting = _ := waits
      -- It waits for an event and not for a permit, so it holds no detection.
      cases placed with
      | idle => exact reachable.tail (.send _ event)
    · refine Serves.wakeAll (serves.apart orderly rfl (fun _ there _ => there) ?_) called
      intro t there own works
      refine works.queue serves.channel (fun turn waits => called ?_) event
      exact mem_waitingFor.mpr ⟨t, there, own, _, turn, waits, decide_eq_true rfl⟩
  · exact serves

/-- The dispatcher is the first that is ready. -/
theorem drives (serves : Serves d n ex) {rest : List Nat} (ready : ex.ready = d :: rest) :
    Quiet d n { ex with ready := rest } ∧
      ∀ t ∈ ex.tasks, t.id = d → t.waiting = none ∧ Drives d n { ex with ready := rest } t := by
  have first : d ∈ ex.ready := ready ▸ List.mem_cons_self
  have still : ∀ t ∈ ex.tasks, t.id = d → t.waiting = none := fun t there own =>
    Option.not_isSome_iff_eq_none.mp fun waits => serves.asleep t there own waits first
  have once := serves.once
  rw [ready, List.count_cons_self] at once
  have popped : d ∉ rest := List.count_eq_zero.mp (Nat.le_zero.mp (Nat.le_of_succ_le_succ once))
  have quiet : Quiet d n { ex with ready := rest } := { serves.toOrderly with popped, still }
  refine ⟨quiet, fun t there own => ⟨still t there own, quiet, own, (serves.fits t there).own own, ?_⟩⟩
  exact (serves.goes t there own (.inr (own ▸ first))).of_view rfl

theorem runFirst (serves : Serves d n ex) : Serves d n ex.runFirst := by
  unfold Executor.runFirst
  split
  · exact serves
  · next id rest ready =>
    by_cases own : id = d
    · subst own
      obtain ⟨quiet, drives⟩ := serves.drives ready
      dsimp only
      split
      · next t found =>
        obtain ⟨there, own⟩ := mem_of_task? found
        obtain ⟨awake, drives⟩ := drives t there own
        exact (drives.runTask awake _).1
      · exact quiet.serves
    · have later : Serves d n { ex with ready := rest } := by
        refine serves.apart { serves.toOrderly with } ?_ (fun _ there _ => there)
          fun _ _ _ works => works.of_view rfl
        rw [ready, List.count_cons_of_ne own]
      dsimp only
      split
      · next t found =>
        obtain ⟨there, same⟩ := mem_of_task? found
        have apart : t.id ≠ d := same ▸ own
        exact later.runTask _ ⟨t, there, rfl, rfl⟩ apart ((later.fits t there).plain apart)
      · exact later

theorem moveTo (serves : Serves d n ex) (due : Int) (first : Option Nat) :
    Serves d n (ex.moveTo due first) := by
  have later : Serves d n { ex with now := due } := serves.alike ⟨rfl, rfl, rfl, rfl, rfl⟩
  unfold Executor.moveTo
  dsimp only
  refine later.wakeAll fun called => ?_
  rw [List.partition_eq_filter_filter] at called
  obtain ⟨t, there, own, reason, turn, waits, passes⟩ := mem_waitingFor.mp
    ((List.mem_append.mp called).elim List.mem_of_mem_filter List.mem_of_mem_filter)
  rcases later.reason_eq there own waits with rfl | rfl <;> cases passes

theorem spawn (serves : Serves d n ex) (session : Nat) (plain : stage.dispatches = false) :
    Serves d n (ex.spawn session stage none).1 := by
  refine serves.apart (serves.toOrderly.spawn session plain nofun) ?_ ?_ fun t _ _ works => ?_
  · show (ex.ready ++ [ex.fresh]).count d = _
    have other : d ∉ [ex.fresh] := fun same => Nat.ne_of_lt serves.known (List.mem_singleton.mp same)
    rw [List.count_append, List.count_eq_zero.mpr other, Nat.add_zero]
  · intro t there own
    rcases List.mem_append.mp there with there | new
    · exact there
    · rw [List.mem_singleton.mp new] at own
      exact absurd own (Nat.ne_of_gt serves.known)
  · refine works.of_view ?_
    unfold view
    rw [running_spawn]
    rfl

theorem happens (serves : Serves d n ex) (happens : Happens n ex other) : Serves d n other := by
  cases happens with
  | sent event => exact serves.send event
  | ran => exact serves.runFirst
  | waited due first => exact serves.moveTo due first
  | began session plain => exact serves.spawn session plain
  | reordered same =>
    exact serves.apart { serves.toOrderly with } (same.count_eq d) (fun _ there _ => there)
      fun _ _ _ works => works.of_view rfl
  | elsewhere same => exact serves.alike same

/-- A service that starts has a dispatcher. -/
theorem start (state : State) (services : Services) (filterDelay : Nat) (now : Int) (random : Nat → Nat) :
    Serves 2 1 (Executor.new state services filterDelay now random).startService.1 := by
  have listed : ∀ t ∈ (Executor.new state services filterDelay now random).startService.1.tasks,
      t = ⟨0, 0, .ticking, none, none, false, none, none⟩ ∨
        t = ⟨1, 0, .night, none, none, false, none, none⟩ ∨
          t = ⟨2, 0, .dispatching 1, none, none, false, none, none⟩ := by
    intro t there
    rcases there with _ | ⟨_, _ | ⟨_, _ | ⟨_, ⟨⟩⟩⟩⟩
    · exact .inl rfl
    · exact .inr (.inl rfl)
    · exact .inr (.inr rfl)
  refine ⟨⟨?_, fun t there => ?_, Nat.lt_succ_self 2, fun t there => ?_, rfl, Nat.lt_succ_self 1⟩,
    Nat.le_refl 1, fun t there own waits => ?_, fun t there own _ => ?_⟩
  · show [0, 1, 2].Nodup
    decide
  · rcases listed t there with rfl | rfl | rfl <;> exact of_decide_eq_true rfl
  · rcases listed t there with rfl | rfl | rfl
    · exact ⟨fun _ => rfl, fun _ => rfl, nofun⟩
    · exact ⟨fun _ => rfl, fun _ => rfl, nofun⟩
    · exact ⟨fun _ => rfl, fun other => absurd rfl other, nofun⟩
  · rcases listed t there with rfl | rfl | rfl <;> cases waits
  · rcases listed t there with rfl | rfl | rfl
    · cases own
    · cases own
    · exact ⟨.receiving, .refl, nofun⟩

end Serves

/-- As long as a started service goes on, its dispatcher is at its work. -/
theorem serves_of_happens {state : State} {services : Services} {filterDelay : Nat} {now : Int}
    {random : Nat → Nat}
    (goes : ReflTransGen (Happens 1) (Executor.new state services filterDelay now random).startService.1 ex) :
    Serves 2 1 ex := by
  induction goes with
  | refl => exact .start state services filterDelay now random
  | tail _ happens ih => exact ih.happens happens

/-- Send events to a channel. -/
def sendAll (ex : Executor) (n : Nat) (events : List Event) : Executor :=
  events.foldl (fun ex event => (ex.send n event).1) ex

theorem happens_sendAll (n : Nat) (events : List Event) (ex : Executor) :
    ReflTransGen (Happens n) ex (ex.sendAll n events) := by
  induction events generalizing ex with
  | nil => exact .refl
  | cons event rest ih => exact .head (.sent ex event) (ih _)

theorem happens_runReady (n fuel : Nat) (ex : Executor) : ReflTransGen (Happens n) ex (runReady fuel ex) := by
  induction fuel generalizing ex with
  | zero => exact .refl
  | succ fuel ih =>
    unfold runReady
    split
    · exact .refl
    · exact .head (.ran ex) (ih _)

/-- In a service, a dispatcher is one in the sense of `Dispatch`. -/
structure Follows (d n : Nat) (ex : Executor) (t : Task) : Prop where
  reachable : (ex.view n t).Reachable
  /-- It waits only if there is nothing that it can do, -/
  stuck : t.waiting.isSome → ∀ w, ¬ Dispatch.Acts (ex.view n t) w
  /-- and in a run of its own it performs what it can. -/
  runs : ex.ready.head? = some d → ∀ s ∈ ex.runFirst.tasks, s.id = d → ex.runFirst.GoesOn s →
    ReflTransGen Dispatch.Performs (ex.view n t) (ex.runFirst.view n s)

theorem Serves.follows (serves : Serves d n ex) (there : t ∈ ex.tasks) (own : t.id = d)
    (goes : ex.GoesOn t) : Follows d n ex t := by
  obtain ⟨-, reachable, stuck⟩ := serves.goes t there own goes
  refine ⟨reachable, stuck, fun first => ?_⟩
  obtain ⟨rest, ready⟩ := List.head?_eq_some_iff.mp first
  obtain ⟨awake, drives⟩ := (serves.drives ready).2 t there own
  have found : ({ ex with ready := rest } : Executor).task? d = some t :=
    own ▸ drives.toOrderly.task?_of_mem there
  have run : ex.runFirst = Executor.runTask stepBound { ex with ready := rest } t := by
    unfold Executor.runFirst
    rw [ready]
    dsimp only
    rw [found]
  rw [run]
  exact (drives.runTask awake stepBound).2

/-- **When an event in the life of a category is handed over.** Whatever a dispatcher has come to, it comes to
the event by its own steps exactly if the detections that run, that it holds and that are before the event
are not more than `maxDetections`. The dispatcher of a service that goes on from its start is such a one. -/
theorem hands_over_lifecycle_iff {v : Dispatch} {before after : List Event} (reachable : v.Reachable)
    (lifecycle : event.isDetection = false) (queued : v.queued = before ++ event :: after) :
    ((∃ w, ReflTransGen Dispatch.Acts v w ∧ w.queued = after) ↔
      v.running + v.held.toList.length + before.countP Event.isDetection ≤ maxDetections) ∧
    ∀ (state : State) (services : Services) (filterDelay : Nat) (now : Int) (random : Nat → Nat)
      (ex : Executor),
      ReflTransGen (Happens 1) (Executor.new state services filterDelay now random).startService.1 ex →
        ∀ t ∈ ex.tasks, t.id = 2 → ex.GoesOn t → Follows 2 1 ex t := by
  refine ⟨?_, fun state services filterDelay now random ex goes t there own going => ?_⟩
  · have balance := Dispatch.balance reachable
    rw [Dispatch.hands_over_iff lifecycle queued, Dispatch.demand]
    omega
  · exact (serves_of_happens goes).follows there own going

/-- A service that has just begun and whose services do not answer. -/
def idle : Executor :=
  .new (State.new .standard Database.new)
    ⟨fun _ => .error .http, fun _ _ => .error .http, fun _ _ _ => .error .http, fun _ => .error .notFound⟩
    0 0 id

/-- A detection and then a deactivation are sent to a service that has started. -/
theorem hands_over_lifecycle_iff_sent :
    ∃ ex t, ReflTransGen (Happens 1) idle.startService.1 ex ∧ t ∈ ex.tasks ∧ Follows 2 1 ex t ∧
      (ex.view 1 t).queued = [.domainDetected "a.com", .categoryDeactivated "games"] ∧
      ∃ w, ReflTransGen Dispatch.Acts (ex.view 1 t) w ∧ w.queued = [] := by
  let sent : List Event := [.domainDetected "a.com", .categoryDeactivated "games"]
  have goes := happens_sendAll 1 sent idle.startService.1
  have computed : ((idle.startService.1.sendAll 1 sent).task? 2).map (fun t =>
      (decide (2 ∈ (idle.startService.1.sendAll 1 sent).ready), t.stage.held.toList.length)) =
        some (true, 0) ∧ ((idle.startService.1.sendAll 1 sent).channel 1).events = sent ∧
          (idle.startService.1.sendAll 1 sent).running 2 = 0 := by
    decide +kernel
  generalize idle.startService.1.sendAll 1 sent = ex at goes computed
  obtain ⟨found, queued, running⟩ := computed
  obtain ⟨t, there, same⟩ := Option.map_eq_some_iff.mp found
  obtain ⟨ready, held⟩ := Prod.mk.inj same
  obtain ⟨listed, own⟩ := mem_of_task? there
  have going : ex.GoesOn t := .inr (own ▸ of_decide_eq_true ready)
  have reachable := ((serves_of_happens goes).goes t listed own going).reachable
  have lifecycle : (Event.categoryDeactivated "games").isDetection = false := rfl
  have after : (ex.view 1 t).queued = [.domainDetected "a.com"] ++ [.categoryDeactivated "games"] := queued
  obtain ⟨handed, follows⟩ := hands_over_lifecycle_iff reachable lifecycle after
  refine ⟨ex, t, goes, listed, follows _ _ _ _ _ ex goes t listed own going, queued, handed.mpr ?_⟩
  show ex.running t.id + t.stage.held.toList.length + _ ≤ _
  rw [own, running, held]
  decide

/-- A service that was sent one detection more than it runs at a time, and then a deactivation. Its loops
have run. -/
def flooded : Executor :=
  runReady 3 (idle.startService.1.sendAll 1
    ((List.range (maxDetections + 1)).map (fun i => .domainDetected ("d" ++ toString i ++ ".com")) ++
      [.categoryDeactivated "games"]))

/-- The deactivation is in the channel, and the dispatcher cannot come to it by its own steps. -/
theorem deactivation_stuck :
    ∃ t ∈ flooded.tasks, t.id = 2 ∧ flooded.GoesOn t ∧
      ReflTransGen (Happens 1) idle.startService.1 flooded ∧ (flooded.view 1 t).Reachable ∧
      (flooded.view 1 t).queued = [.categoryDeactivated "games"] ∧
      ¬ ∃ w, ReflTransGen Dispatch.Acts (flooded.view 1 t) w ∧ w.queued = [] := by
  have goes : ReflTransGen (Happens 1) idle.startService.1 flooded :=
    (happens_sendAll 1 _ _).trans (happens_runReady 1 3 _)
  have computed : (flooded.task? 2).map (fun t =>
      (t.waiting.isSome, t.stage.held.toList.length, flooded.freePermits 2 + t.inHand)) =
        some (true, 1, 0) ∧ (flooded.channel 1).events = [.categoryDeactivated "games"] := by
    decide +kernel
  generalize flooded = ex at goes computed ⊢
  obtain ⟨found, queued⟩ := computed
  obtain ⟨t, there, same⟩ := Option.map_eq_some_iff.mp found
  obtain ⟨waits, same⟩ := Prod.mk.inj same
  obtain ⟨held, free⟩ := Prod.mk.inj same
  obtain ⟨listed, own⟩ := mem_of_task? there
  have reachable := ((serves_of_happens goes).goes t listed own (.inl waits)).reachable
  refine ⟨t, listed, own, .inl waits, goes, reachable, queued, fun handed => ?_⟩
  have lifecycle : (Event.categoryDeactivated "games").isDetection = false := rfl
  have first : (ex.view 1 t).queued = [] ++ [.categoryDeactivated "games"] := queued
  have enough : t.stage.held.toList.length + 0 ≤ ex.freePermits t.id + t.inHand :=
    (Dispatch.hands_over_iff lifecycle first).mp handed
  rw [own, held, free] at enough
  cases enough

end Executor

end CategoryFilter
