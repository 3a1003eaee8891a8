/-
**What shows of a dispatcher.**

A dispatcher of the service is one of its tasks. Its channel, its permits and the tasks that hold one show
what it has to do and what it can use (`view`):

* `Placed`: the stages of a dispatcher, with what it waits for there.
* `Orderly`: the tasks have numbers of their own, and one of them dispatches. This is kept by all that
  changes the tasks: they are woken (`wakeAll_eq`), put in place, begun and finished.
* `running_filter`, `running_spawn`: the detections that run when one finishes or begins.
* `view_alike`, `view_wakeAll`: what other tasks do does not show.
-/

import CategoryFilter.Proofs.Lookup
import CategoryFilter.Proofs.Service.Bystander
import CategoryFilter.Proofs.Service.Dispatch
import Mathlib.Data.List.Nodup

namespace CategoryFilter

/-! ### The dispatcher -/

/-- The event that a stage holds while it waits for a permit or has one in hand. -/
def Stage.held : Stage → Option Event
  | .permitted _ event => some event
  | _ => none

/-- The permits that a dispatcher has in hand: one, from when it need not wait for one to when it lets the
detection that it holds run. -/
def Task.inHand (t : Task) : Nat :=
  match t.stage, t.waiting with
  | .permitted _ _, none => 1
  | _, _ => 0

/-- A task after some were woken. -/
def Task.wokenIn (ids : List Nat) (t : Task) : Task :=
  if t.id ∈ ids then { t with waiting := none } else t

/-- Where the dispatcher of a channel is, and what it waits for there. -/
inductive Placed (n : Nat) : Stage → Option (Wait × Nat) → Prop
  | receiving : Placed n (.dispatching n) none
  | idle (turn : Nat) : Placed n (.dispatching n) (some (.event n, turn))
  | releasing (name : String) : Placed n (.permitted n (.domainDetected name)) none
  | blocked (name : String) (turn : Nat) :
      Placed n (.permitted n (.domainDetected name)) (some (.permit, turn))

theorem Placed.woken {n : Nat} {stage : Stage} {waiting : Option (Wait × Nat)}
    (placed : Placed n stage waiting) : Placed n stage none := by
  cases placed with
  | receiving | idle => exact .receiving
  | releasing name | blocked name => exact .releasing name

/-- What a task may be beside a dispatcher: no other task dispatches, and all permits are of this one. -/
structure Task.Fits (d : Nat) (t : Task) : Prop where
  own : t.id = d → t.permit = none
  plain : t.id ≠ d → t.stage.dispatches = false
  permit : ∀ p, t.permit = some p → p = d

namespace Task

variable {t : Task} {d : Nat} {ids : List Nat}

@[simp] theorem id_wokenIn : (t.wokenIn ids).id = t.id := by
  unfold wokenIn
  split <;> rfl

@[simp] theorem session_wokenIn : (t.wokenIn ids).session = t.session := by
  unfold wokenIn
  split <;> rfl

@[simp] theorem permit_wokenIn : (t.wokenIn ids).permit = t.permit := by
  unfold wokenIn
  split <;> rfl

@[simp] theorem stage_wokenIn : (t.wokenIn ids).stage = t.stage := by
  unfold wokenIn
  split <;> rfl

theorem wokenIn_of_notMem (other : t.id ∉ ids) : t.wokenIn ids = t := if_neg other

theorem wokenIn_of_mem (there : t.id ∈ ids) : t.wokenIn ids = { t with waiting := none } := if_pos there

theorem wokenIn_nil : wokenIn [] = fun t => t := funext fun _ => wokenIn_of_notMem List.not_mem_nil

theorem Fits.wokenIn (fits : t.Fits d) : (t.wokenIn ids).Fits d := by
  refine ⟨?_, ?_, ?_⟩
  · rw [id_wokenIn, permit_wokenIn]
    exact fits.own
  · rw [id_wokenIn, stage_wokenIn]
    exact fits.plain
  · rw [permit_wokenIn]
    exact fits.permit

end Task

namespace Executor

variable {ex other : Executor} {t : Task} {d n : Nat} {ids : List Nat} {stage : Stage}

theorem wakeAll_eq (ex : Executor) (ids : List Nat) :
    ex.wakeAll ids = { ex with tasks := ex.tasks.map (Task.wokenIn ids), ready := ex.ready ++ ids } := by
  induction ids generalizing ex with
  | nil =>
    show ex = _
    rw [Task.wokenIn_nil, List.map_id', List.append_nil]
  | cons id rest ih =>
    show (ex.wake id).wakeAll rest = _
    rw [ih]
    unfold wake
    congr 1
    · simp only [List.map_map]
      refine List.map_congr_left fun t _ => ?_
      simp only [Function.comp, Task.wokenIn, List.mem_cons]
      grind
    · simp

theorem channels_wakeAll (ex : Executor) (ids : List Nat) : (ex.wakeAll ids).channels = ex.channels := by
  rw [wakeAll_eq]

theorem channel_setChannel (there : n < ex.channels.length) (c : Channel) :
    (ex.setChannel n c).channel n = c := by
  unfold channel setChannel
  rw [List.getElem?_set_self there]
  rfl

theorem lookup_setPermits (known : (ex.permits.lookup d).isSome) (count : Nat) :
    (ex.setPermits d count).permits.lookup d = some count :=
  lookup_map_value known count

theorem freePermits_setPermits (known : (ex.permits.lookup d).isSome) (count : Nat) :
    (ex.setPermits d count).freePermits d = count := by
  unfold freePermits
  rw [lookup_setPermits known]
  rfl

/-- The tasks that hold a permit of a dispatcher. -/
def running (ex : Executor) (d : Nat) : Nat := ex.tasks.countP fun t => t.permit = some d

/-- A dispatcher as its channel, its permits and the tasks show it. -/
def view (ex : Executor) (n : Nat) (t : Task) : Dispatch :=
  ⟨(ex.channel n).events, t.stage.held, ex.freePermits t.id + t.inHand, ex.running t.id⟩

/-- Whether a task waits or can run. -/
def GoesOn (ex : Executor) (t : Task) : Prop := t.waiting.isSome ∨ t.id ∈ ex.ready

/-- The tasks have numbers of their own, and the dispatcher has its channel and its permits. -/
structure Orderly (d n : Nat) (ex : Executor) : Prop where
  ids : (ex.tasks.map Task.id).Nodup
  below : ∀ t ∈ ex.tasks, t.id < ex.fresh
  known : d < ex.fresh
  fits : ∀ t ∈ ex.tasks, t.Fits d
  permits : (ex.permits.lookup d).isSome
  channel : n < ex.channels.length

namespace Orderly

theorem unique (orderly : Orderly d n ex) {s : Task} (first : t ∈ ex.tasks) (second : s ∈ ex.tasks)
    (same : t.id = s.id) : t = s :=
  List.inj_on_of_nodup_map orderly.ids first second same

theorem task?_of_mem (orderly : Orderly d n ex) (there : t ∈ ex.tasks) : ex.task? t.id = some t := by
  cases found : ex.task? t.id with
  | some s =>
    obtain ⟨listed, same⟩ := mem_of_task? found
    rw [orderly.unique listed there same]
  | none => exact absurd (decide_eq_true rfl) (List.find?_eq_none.mp found t there)

/-- Some tasks are left, each in a new form. -/
theorem map (orderly : Orderly d n ex) {kept : List Task} {f : Task → Task}
    (sub : kept.Sublist ex.tasks) (tasks : other.tasks = kept.map f)
    (same : ∀ t ∈ kept, (f t).id = t.id) (fits : ∀ t ∈ kept, (f t).Fits d)
    (fresh : ex.fresh ≤ other.fresh) (permits : (other.permits.lookup d).isSome)
    (channels : other.channels.length = ex.channels.length) : Orderly d n other := by
  refine ⟨?_, ?_, Nat.lt_of_lt_of_le orderly.known fresh, ?_, permits, channels ▸ orderly.channel⟩
  · have numbers : kept.map (Task.id ∘ f) = kept.map Task.id := List.map_congr_left same
    rw [tasks, List.map_map, numbers]
    exact orderly.ids.sublist (sub.map _)
  · intro t there
    obtain ⟨s, left, rfl⟩ := List.mem_map.mp (tasks ▸ there)
    rw [same s left]
    exact Nat.lt_of_lt_of_le (orderly.below s (sub.mem left)) fresh
  · intro t there
    obtain ⟨s, left, rfl⟩ := List.mem_map.mp (tasks ▸ there)
    exact fits s left

theorem alike (orderly : Orderly d n ex) (same : Alike ex other) : Orderly d n other := by
  refine ⟨?_, ?_, ?_, ?_, ?_, ?_⟩
  · rw [same.tasks]
    exact orderly.ids
  · rw [same.tasks, same.fresh]
    exact orderly.below
  · rw [same.fresh]
    exact orderly.known
  · rw [same.tasks]
    exact orderly.fits
  · rw [same.permits]
    exact orderly.permits
  · rw [same.channels]
    exact orderly.channel

theorem spawn (orderly : Orderly d n ex) (session : Nat) (plain : stage.dispatches = false)
    {permit : Option Nat} (own : ∀ p, permit = some p → p = d) :
    Orderly d n (ex.spawn session stage permit).1 := by
  refine ⟨?_, ?_, Nat.lt_succ_of_lt orderly.known, ?_, orderly.permits, orderly.channel⟩
  · show ((ex.tasks ++ [_]).map Task.id).Nodup
    rw [List.map_append, List.nodup_append]
    refine ⟨orderly.ids, List.nodup_singleton _, fun a old b new => ?_⟩
    obtain ⟨t, there, rfl⟩ := List.mem_map.mp old
    rw [List.mem_singleton.mp new]
    exact Nat.ne_of_lt (orderly.below t there)
  · intro t there
    rcases List.mem_append.mp there with there | new
    · exact Nat.lt_succ_of_lt (orderly.below t there)
    · rw [List.mem_singleton.mp new]
      exact Nat.lt_succ_self _
  · intro t there
    rcases List.mem_append.mp there with there | new
    · exact orderly.fits t there
    · rw [List.mem_singleton.mp new]
      exact ⟨fun same => absurd same (Nat.ne_of_gt orderly.known), fun _ => plain, own⟩

theorem wakeAll (orderly : Orderly d n ex) (ids : List Nat) : Orderly d n (ex.wakeAll ids) := by
  rw [wakeAll_eq]
  exact orderly.map (List.Sublist.refl _) rfl (fun t _ => Task.id_wokenIn)
    (fun t there => (orderly.fits t there).wokenIn) (Nat.le_refl _) orderly.permits rfl

theorem setChannel (orderly : Orderly d n ex) (c : Channel) : Orderly d n (ex.setChannel n c) :=
  { orderly with channel := (List.length_set ..).symm ▸ orderly.channel }

theorem setPermits (orderly : Orderly d n ex) (count : Nat) : Orderly d n (ex.setPermits d count) :=
  { orderly with permits := by rw [lookup_setPermits orderly.permits]; rfl }

/-- A task is put in place of its earlier form. -/
theorem putTask (orderly : Orderly d n ex) (fits : t.Fits d) :
    Orderly d n { ex.putTask t with fresh := ex.fresh + 1 } := by
  refine orderly.map (List.Sublist.refl _) rfl (fun s _ => ?_) (fun s there => ?_) (Nat.le_succ _)
    orderly.permits rfl
  · split
    · next same => exact same.symm
    · rfl
  · split
    · exact fits
    · exact orderly.fits s there

/-- Of the tasks that wait, each is found once. -/
theorem nodup_waitingFor (orderly : Orderly d n ex) (test : Task → Wait → Bool) :
    (ex.waitingFor test).Nodup := by
  have numbers := List.pairwise_map.mp orderly.ids
  unfold waitingFor
  dsimp only
  rw [((List.mergeSort_perm _ _).map Prod.snd).nodup_iff, List.Nodup, List.pairwise_map,
    List.pairwise_filterMap]
  refine numbers.imp fun apart p first q second => ?_
  split at first
  · split at first
    · cases first
      split at second
      · split at second
        · cases second
          exact apart
        · cases second
      · cases second
    · cases first
  · cases first

/-- A task is finished. -/
theorem filter (orderly : Orderly d n ex) (id : Nat) (results : List (Nat × TaskResult)) :
    Orderly d n { ex with tasks := ex.tasks.filter fun t => t.id != id, results } :=
  orderly.map List.filter_sublist (List.map_id' _).symm (fun _ _ => rfl)
    (fun t there => orderly.fits t (List.mem_of_mem_filter there)) (Nat.le_refl _) orderly.permits rfl

end Orderly

/-! ### What shows of the dispatcher -/

theorem running_map {f : Task → Task} (tasks : other.tasks = ex.tasks.map f)
    (same : ∀ t ∈ ex.tasks, (f t).permit = t.permit) (d : Nat) : other.running d = ex.running d := by
  unfold running
  rw [tasks, List.countP_map]
  refine List.countP_congr fun t there => ?_
  rw [Function.comp, same t there]

/-- The detections that run without the one of a finished task. -/
theorem running_filter (orderly : Orderly d n ex) (there : t ∈ ex.tasks) :
    (ex.tasks.filter fun other => other.id != t.id).countP (fun t => t.permit = some d) +
      (if t.permit = some d then 1 else 0) = ex.running d := by
  unfold running
  have ids := orderly.ids
  generalize ex.tasks = tasks at there ids ⊢
  induction tasks with
  | nil => cases there
  | cons first rest ih =>
    rw [List.map_cons, List.nodup_cons] at ids
    rcases List.mem_cons.mp there with rfl | later
    · have others : rest.filter (fun other => other.id != t.id) = rest := by
        refine List.filter_eq_self.mpr fun other there => bne_iff_ne.mpr fun same => ids.1 ?_
        exact List.mem_map.mpr ⟨other, there, same⟩
      rw [List.filter_cons_of_neg (by simp), others, List.countP_cons]
      simp only [decide_eq_true_eq]
    · have kept : (first :: rest).filter (fun other => other.id != t.id) =
          first :: rest.filter fun other => other.id != t.id := by
        refine List.filter_cons_of_pos (bne_iff_ne.mpr fun same => ids.1 ?_)
        exact same ▸ List.mem_map_of_mem later
      rw [kept, List.countP_cons, List.countP_cons, Nat.add_right_comm, ih later ids.2]

theorem running_putTask (same : ∀ s ∈ ex.tasks, s.id = t.id → s.permit = t.permit) (d : Nat) :
    (ex.putTask t).running d = ex.running d := by
  refine running_map rfl (fun s there => ?_) d
  split
  · next own => exact (same s there own).symm
  · rfl

theorem running_spawn (ex : Executor) (session : Nat) (stage : Stage) (permit : Option Nat) (d : Nat) :
    (ex.spawn session stage permit).1.running d = ex.running d + if permit = some d then 1 else 0 := by
  show (ex.tasks ++ [_]).countP _ = _
  rw [List.countP_append, List.countP_singleton]
  simp only [decide_eq_true_eq]
  rfl

theorem view_alike (same : Alike ex other) (n : Nat) (t : Task) : other.view n t = ex.view n t := by
  unfold view channel freePermits running
  rw [same.channels, same.permits, same.tasks]

theorem view_wakeAll (ex : Executor) (ids : List Nat) (n : Nat) (t : Task) :
    (ex.wakeAll ids).view n t = ex.view n t := by
  have same : (ex.wakeAll ids).running t.id = ex.running t.id :=
    running_map (congrArg tasks (wakeAll_eq ex ids)) (fun t _ => Task.permit_wokenIn) t.id
  unfold view
  rw [same, wakeAll_eq]
  rfl

end Executor

end CategoryFilter
