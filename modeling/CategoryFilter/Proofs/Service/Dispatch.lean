/-
**A dispatcher and its permits.**

A dispatcher receives events one after another. It handles the events in the life of a category itself;
a detection it holds until it has a permit, and then lets it run. A permit comes back when its detection
finishes, and while the dispatcher waits for one it receives nothing.

* `balance`: the permits that are free and the detections that run are `maxDetections` together.
* `Acts.demand_le`, `exists_handing`: what one step of its own says of the permits that all events before
  another need, and the way to that other with enough of them.
* `hands_over_iff`: it hands an event over without waiting for a detection exactly if there is a free
  permit for each detection before that event.
-/

import CategoryFilter.Service.Executor
import Mathlib.Logic.Relation

namespace CategoryFilter

/-- Whether an event is a detection, and not one in the life of a category. -/
def Event.isDetection : Event → Bool
  | .domainDetected _ => true
  | _ => false

/-- What a dispatcher has to do and what it can use. -/
structure Dispatch where
  /-- The events in its channel. -/
  queued : List Event
  /-- The detection that it has received and that needs a permit. -/
  held : Option Event
  /-- Its free permits. -/
  free : Nat
  /-- Its detections that run, each with a permit. -/
  running : Nat

namespace Dispatch

open Relation (ReflTransGen)

/-- A dispatcher that begins. -/
def start : Dispatch := ⟨[], none, maxDetections, 0⟩

/-- A step that the dispatcher takes by itself. -/
inductive Acts : Dispatch → Dispatch → Prop
  /-- It handles an event in the life of a category. -/
  | handle {event : Event} {rest : List Event} {free running : Nat}
      (lifecycle : event.isDetection = false) :
      Acts ⟨event :: rest, none, free, running⟩ ⟨rest, none, free, running⟩
  /-- It receives a detection. -/
  | receive {event : Event} {rest : List Event} {free running : Nat}
      (detection : event.isDetection = true) :
      Acts ⟨event :: rest, none, free, running⟩ ⟨rest, some event, free, running⟩
  /-- It lets the detection run. -/
  | release {event : Event} {queued : List Event} {free running : Nat} :
      Acts ⟨queued, some event, free + 1, running⟩ ⟨queued, none, free, running + 1⟩

/-- A step of the dispatcher, of those that send to it, or of its detections. -/
inductive Step : Dispatch → Dispatch → Prop
  | act {v w : Dispatch} (acts : Acts v w) : Step v w
  | send (v : Dispatch) (event : Event) : Step v { v with queued := v.queued ++ [event] }
  /-- A detection finishes. -/
  | finish {queued : List Event} {held : Option Event} {free running : Nat} :
      Step ⟨queued, held, free, running + 1⟩ ⟨queued, held, free + 1, running⟩

/-- What a dispatcher does that is not made to wait: nothing if there is nothing to do, else its next step.
A detection of no domain finishes at once. -/
inductive Performs : Dispatch → Dispatch → Prop
  | rest {free running : Nat} : Performs ⟨[], none, free, running⟩ ⟨[], none, free, running⟩
  | act {v w : Dispatch} (acts : Acts v w) : Performs v w
  | drop {event : Event} {queued : List Event} {free running : Nat} :
      Performs ⟨queued, some event, free + 1, running⟩ ⟨queued, none, free + 1, running⟩

/-- What a dispatcher can come to. -/
def Reachable (v : Dispatch) : Prop := ReflTransGen Step start v

variable {v w : Dispatch} {event : Event} {before after : List Event}

theorem Acts.balance (acts : Acts v w) : w.free + w.running = v.free + v.running := by
  cases acts with
  | handle | receive => rfl
  | release => exact (Nat.succ_add_eq_add_succ _ _).symm

theorem Step.balance (step : Step v w) : w.free + w.running = v.free + v.running := by
  cases step with
  | act acts => exact acts.balance
  | send => rfl
  | finish => exact Nat.succ_add_eq_add_succ _ _

theorem Performs.reachable (performs : Performs v w) (reachable : Reachable v) : Reachable w := by
  cases performs with
  | rest => exact reachable
  | act acts => exact reachable.tail (.act acts)
  | drop => exact (reachable.tail (.act .release)).tail .finish

/-- Without an event there is nothing to do for a dispatcher that holds no detection, -/
theorem not_acts_idle {free running : Nat} : ¬ Acts ⟨[], none, free, running⟩ w := nofun

/-- and without a permit for one that holds a detection. -/
theorem not_acts_blocked {queued : List Event} {running : Nat} :
    ¬ Acts ⟨queued, some event, 0, running⟩ w := nofun

/-- What a dispatcher that holds a detection can do does not depend on its channel. -/
theorem Acts.of_queued {queued : List Event} (held : v.held.isSome) (acts : Acts { v with queued } w) :
    ∃ w, Acts v w := by
  obtain ⟨own, held', free, running⟩ := v
  cases acts with
  | handle | receive => cases held
  | release => exact ⟨_, .release⟩

/-- What a dispatcher that holds none can do does not depend on its permits. -/
theorem Acts.of_free {free running : Nat} (held : v.held = none) (acts : Acts { v with free, running } w) :
    ∃ w, Acts v w := by
  obtain ⟨queued, held', free', running'⟩ := v
  cases acts with
  | handle lifecycle => exact ⟨_, .handle lifecycle⟩
  | receive detection => exact ⟨_, .receive detection⟩
  | release => cases held

/-- **Every permit is free or runs a detection.** -/
theorem balance (reachable : Reachable v) : v.free + v.running = maxDetections := by
  induction reachable with
  | refl => rfl
  | tail _ step ih => exact step.balance.trans ih

/-- The permits that the dispatcher needs for what it holds and for some events. -/
def demand (v : Dispatch) (before : List Event) : Nat :=
  v.held.toList.length + before.countP Event.isDetection

/-- If after a step there are permits for all that comes before an event, there were before it. -/
theorem Acts.demand_le (acts : Acts v w) (lifecycle : event.isDetection = false)
    (queued : v.queued = before ++ event :: after)
    (enough : ∀ rest, w.queued = rest ++ event :: after → w.demand rest ≤ w.free) :
    v.demand before ≤ v.free := by
  cases acts with
  | handle other =>
    rcases before with _ | ⟨first, rest⟩
    · exact Nat.zero_le _
    · obtain ⟨rfl, tail⟩ := List.cons.inj queued
      have later := enough rest tail
      unfold demand at later ⊢
      rwa [List.countP_cons_of_neg (Bool.eq_false_iff.mp other)]
  | receive detection =>
    rcases before with _ | ⟨first, rest⟩
    · obtain ⟨rfl, -⟩ := List.cons.inj queued
      rw [lifecycle] at detection
      cases detection
    · obtain ⟨rfl, tail⟩ := List.cons.inj queued
      have later := enough rest tail
      unfold demand at later ⊢
      rw [List.countP_cons_of_pos detection]
      simp only [Option.toList_some, Option.toList_none, List.length_singleton, List.length_nil] at later ⊢
      omega
  | release =>
    have later := enough before queued
    unfold demand at later ⊢
    simp only [Option.toList_some, Option.toList_none, List.length_singleton, List.length_nil] at later ⊢
    omega

/-- With enough permits the dispatcher comes to an event. -/
theorem exists_handing (lifecycle : event.isDetection = false) (before : List Event) :
    ∀ {free : Nat} (running : Nat), before.countP Event.isDetection ≤ free →
      ∃ w, ReflTransGen Acts ⟨before ++ event :: after, none, free, running⟩ w ∧
        w.queued = after := by
  induction before with
  | nil => exact fun running _ => ⟨_, .single (.handle lifecycle), rfl⟩
  | cons first rest ih =>
    intro free running enough
    cases detection : first.isDetection with
    | false =>
      rw [List.countP_cons_of_neg (Bool.eq_false_iff.mp detection)] at enough
      obtain ⟨w, path, last⟩ := ih running enough
      exact ⟨w, .head (.handle detection) path, last⟩
    | true =>
      rw [List.countP_cons_of_pos detection] at enough
      cases free with
      | zero => cases enough
      | succ free =>
        obtain ⟨w, path, last⟩ := ih (running + 1) (Nat.le_of_succ_le_succ enough)
        exact ⟨w, .head (.receive detection) (.head .release path), last⟩

/-- **When an event in the life of a category is handed over.** The dispatcher comes to it by itself, while
no detection finishes, exactly if a permit is free for each detection that it holds or that is before
the event. -/
theorem hands_over_iff (lifecycle : event.isDetection = false)
    (queued : v.queued = before ++ event :: after) :
    (∃ w, ReflTransGen Acts v w ∧ w.queued = after) ↔ v.demand before ≤ v.free := by
  constructor
  · rintro ⟨w, path, last⟩
    induction path using ReflTransGen.head_induction_on generalizing before with
    | refl =>
      have lengths := congrArg List.length (last.symm.trans queued)
      rw [List.length_append, List.length_cons] at lengths
      omega
    | head acts _ ih => exact acts.demand_le lifecycle queued fun rest there => ih there
  · intro enough
    obtain ⟨all, held, free, running⟩ := v
    cases queued
    unfold demand at enough
    cases held with
    | none =>
      refine exists_handing lifecycle before running ?_
      simpa using enough
    | some detection =>
      rw [Option.toList_some, List.length_singleton, Nat.add_comm] at enough
      cases free with
      | zero => cases enough
      | succ free =>
        obtain ⟨w, path, last⟩ :=
          exists_handing lifecycle before (running + 1) (Nat.le_of_succ_le_succ enough)
        exact ⟨w, .head .release path, last⟩

end Dispatch

end CategoryFilter
