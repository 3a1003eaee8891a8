/-
**The bound of the sets, and what breaks it.**

A confirmation cuts the sets of each category that it settles, and a detection adds no members. A refresh
makes excluded hits passthroughs and cuts nothing, so the passthroughs can pass the bound there:

* `size_perform`, `size_passthrough_perform`: what a call does to the sizes of a pair.
* `bounded_perform`: the hits never pass the bound, nor both sets together twice the bound.
* `capped_run_iff`: both sets of every category stay within the bound through a run exactly if each
  refresh of the run leaves room for the excluded hits (`Fits`).
* `refresh_over_cap`: a run that passes the bound.
-/

import CategoryFilter.Proofs.Examiner.Drift
import CategoryFilter.Proofs.Examiner.Run
import CategoryFilter.Proofs.Order
import CategoryFilter.Store.Schema

namespace CategoryFilter.State

open Database (Trail)

variable {s : State} {category : String}

/-- The bound of each set. -/
def cap (s : State) : Nat := s.config.maxSetSize.toNat

/-- The sets of every category are within the bound. -/
def Capped (s : State) : Prop :=
  ∀ category side, (s.database.pair category side).size ≤ s.cap

/-- The hits are within the bound, and both sets together within twice the bound. -/
def Bounded (s : State) : Prop :=
  ∀ category, (s.database.pair category .hit).size ≤ s.cap ∧
    (s.database.pair category .hit).size + (s.database.pair category .passthrough).size ≤ 2 * s.cap

/-- The database, which counts in signed 64-bit numbers, can count each set, and could if every waiting
candidate were added to it. -/
def Countable (s : State) : Prop :=
  ∀ category side, (s.database.pair category side).size + s.session.queue.size < SortedSet.countBound

/-- A call refreshes a category: the refresh of it, or that of all if its turn comes. -/
def Refreshed (s : State) (around : Surroundings) (category : String) : Call → Prop
  | .refresh there other => there = around ∧ other = category ∧ s.Refreshable around category
  | .refreshAll there =>
    there = around ∧ category ∈ turns around s.registry.activeCategories ∧
      s.Refreshable around category
  | _ => False

/-- A call leaves room for the excluded hits that it makes passthroughs: with the former passthroughs
that it does not remove, they are within the bound. -/
def Fits (s : State) (c : Call) : Prop :=
  ∀ around category, s.Refreshed around category c →
    (s.excludedHits category).length + (s.spared around category).length ≤ s.cap

/-! ### One call -/

/-- New scores for members change no sizes. -/
theorem size_recalls {registry : Registry} {before after : Database}
    (trail : Trail (Recalls registry) before after) (held : ∀ category, (before.pair category).Exclusive)
    (category : String) (side : Side) :
    (after.pair category side).size = (before.pair category side).size := by
  have both := trail.preserves
    (P := fun db => (db.pair category).Exclusive ∧
      (db.pair category side).size = (before.pair category side).size)
    (fun db w allowed now => ?_) ⟨held category, rfl⟩
  · exact both.2
  · obtain ⟨-, here, -⟩ := allowed
    next other m score =>
    refine ⟨?_, ?_⟩
    · rw [Database.pair_write]
      split
      · exact SetPair.exclusive_after now.1 _
      · exact now.1
    · rw [← now.2, Database.pair_write]
      split
      · next same =>
        have same : other = category := same
        subst same
        exact SetPair.size_record_of_contains now.1 here score side
      · rfl

theorem size_clears {other : String} {before after : Database}
    (trail : Trail (Database.Clears other) before after) (category : String) (side : Side) :
    (after.pair category side).size ≤ (before.pair category side).size := by
  refine trail.preserves
    (P := fun db => (db.pair category side).size ≤ (before.pair category side).size)
    (fun db w allowed now => ?_) (Nat.le_refl _)
  obtain ⟨cleared, rfl⟩ := allowed
  rw [Database.pair_write]
  split
  · have inside : ((db.pair category).after (.clear other cleared) side).Within _ :=
      SetPair.after_within (by trivial) side
    exact Nat.le_trans inside.size_le now
  · exact now

/-- What the confirmation of a category records can be counted. -/
theorem Countable.recorded (countable : s.Countable) {u : State} (turn : Turn s u category)
    (clock : Clock) (confirmation : Confirmation) (side : Side) :
    (u.recorded clock category confirmation
      (ofCategory (sortPending s.session.queue.pending) category) side).size <
        SortedSet.countBound := by
  let items := ofCategory (sortPending s.session.queue.pending) category
  have few : items.length ≤ s.session.queue.size :=
    Nat.le_trans (List.length_filter_le _ _) (Nat.le_of_eq (length_sortPending _))
  have grown := SetPair.size_recordAll_le (u.database.pair category)
    (clock (.confirmation category)) ((u.ruling clock category confirmation).entries items) side
  have made := length_entries_le (u.ruling clock category confirmation) items
  have counted := countable category side
  rw [← turn.pair] at counted
  exact Nat.lt_of_le_of_lt grown (by omega)

/-- A confirmation leaves a pair alone or cuts both of its sets. -/
theorem size_confirm (healthy : s.database.Healthy) (countable : s.Countable) (services : Services)
    (clock : Clock) (category : String) :
    (s.confirmQueued services clock).1.database.pair category = s.database.pair category ∨
      ∀ side, ((s.confirmQueued services clock).1.database.pair category side).size ≤ s.cap := by
  by_cases waits : ∃ p ∈ s.session.queue.pending, p.1.category = category
  · obtain ⟨p, waiting, own⟩ := waits
    obtain ⟨u, turn, after⟩ := exists_turn waiting own services clock
    let items := ofCategory (sortPending s.session.queue.pending) category
    rw [after]
    cases strategy : (u.registry.strategy category).updateConfirmSet with
    | false =>
      rw [confirmCategory_ignored strategy]
      exact Or.inl turn.pair
    | true =>
      cases answer : (u.consult services category items).2 with
      | error cause =>
        refine Or.inl ?_
        rw [confirmCategory_failed strategy answer]
        have kept : Trail (fun _ _ => False) _ _ :=
          (requeueAll_reaches (u.ask (u.consult services category items).1) items).trail
        exact (kept.pair_eq fun _ _ never => never.elim).trans turn.pair
      | ok confirmation =>
        refine Or.inr fun side => ?_
        have small := countable.recorded turn clock confirmation
        rw [pair_confirmCategory (turn.healthy healthy) strategy answer clock small,
          SortedSet.size_newest, turn.config]
        exact Nat.min_le_right _ _
  · refine Or.inl (pair_confirmQueued_none (fun p waiting own => ?_) services clock)
    exact waits ⟨p, waiting, own⟩

/-- A call that refreshes a category does to its pair what the refresh alone does. -/
theorem exists_refreshed {around : Surroundings} {c : Call}
    (refreshed : s.Refreshed around category c) :
    ∃ u, Turn s u category ∧ u.Refreshable around category ∧
      (s.perform c).database.pair category = (u.refresh around category).1.database.pair category := by
  cases c with
  | refresh there other =>
    obtain ⟨rfl, rfl, going⟩ := refreshed
    exact ⟨s, .refl s _, going, rfl⟩
  | refreshAll there =>
    obtain ⟨rfl, listed, going⟩ := refreshed
    have distinct : s.registry.activeCategories.Nodup := Text.nodup_sortNames _
    obtain ⟨u, turn, after⟩ := exists_refresh_turn _ s distinct listed
    have ready : u.Refreshable there category :=
      ⟨turn.enabled.trans going.enabled, going.running, by rw [turn.registry]; exact going.recorded⟩
    exact ⟨u, turn, ready, after⟩
  | _ => cases refreshed

theorem reconciled_perform (healthy : s.database.Healthy) {around : Surroundings} {c : Call}
    (refreshed : s.Refreshed around category c) :
    (s.database.pair category).Reconciled (s.registry.exclusions category)
      ((s.perform c).database.pair category) := by
  obtain ⟨u, turn, ready, after⟩ := exists_refreshed refreshed
  have reconciled := refresh_reconciled ready fun _ _ => (turn.healthy healthy).accepts _
  rwa [turn.pair, turn.registry, ← after] at reconciled

/-- After a refresh the passthroughs are the excluded hits and the former passthroughs that it spared. -/
theorem size_passthrough_perform (healthy : s.database.Healthy)
    (held : ∀ category, (s.database.pair category).Exclusive) {around : Surroundings} {c : Call}
    (refreshed : s.Refreshed around category c) :
    ((s.perform c).database.pair category .passthrough).size =
      (s.excludedHits category).length + (s.spared around category).length := by
  obtain ⟨u, turn, ready, after⟩ := exists_refreshed refreshed
  have left := remaining_refresh (turn.healthy healthy) ready
  rw [turn.pair, ← after, turn.spared_eq] at left
  rw [(reconciled_perform healthy refreshed).size_passthrough (held category), left]
  rfl

/-- A call that does not refresh a category adds no members to its sets or cuts them. -/
theorem size_perform (healthy : s.database.Healthy) (countable : s.Countable)
    (held : ∀ category, (s.database.pair category).Exclusive) {c : Call}
    (other : ∀ around, ¬ s.Refreshed around category c) :
    (∀ side, ((s.perform c).database.pair category side).size ≤ (s.database.pair category side).size) ∨
      ∀ side, ((s.perform c).database.pair category side).size ≤ s.cap := by
  cases c with
  | detect around origin =>
    refine Or.inl fun side => Nat.le_of_eq ?_
    exact size_recalls (detect_reaches s around origin).trail held category side
  | confirm around =>
    refine (size_confirm healthy countable around.services around.clock category).imp_left ?_
    intro same side
    exact Nat.le_of_eq (congrArg SortedSet.size (congrFun same side))
  | refresh around name =>
    refine Or.inl fun side => Nat.le_of_eq ?_
    show ((s.refresh around name).1.database.pair category side).size = _
    by_cases same : name = category
    · have idle : ¬ s.Refreshable around name := fun going =>
        other around ⟨rfl, same, same ▸ going⟩
      rw [refresh_idle idle]
    · rw [(refresh_reaches_all s around name).trail.pair_eq fun _ _ allowed equal =>
        same ((category_of_refreshes allowed).symm.trans equal)]
  | refreshAll around =>
    refine Or.inl fun side => Nat.le_of_eq ?_
    show ((s.refreshEach around s.registry.activeCategories).1.database.pair category side).size = _
    by_cases listed : category ∈ turns around s.registry.activeCategories
    · have distinct : s.registry.activeCategories.Nodup := Text.nodup_sortNames _
      obtain ⟨u, turn, after⟩ := exists_refresh_turn _ s distinct listed
      have idle : ¬ u.Refreshable around category := fun going =>
        other around ⟨rfl, listed, turn.enabled ▸ going.enabled, going.running,
          turn.registry ▸ going.recorded⟩
      rw [after, refresh_idle idle, turn.pair]
    · rw [pair_refreshEach_unturned _ s listed]
  | deactivate name =>
    exact Or.inl fun side => size_clears (deactivate_reaches s name).trail category side

/-- A call keeps the hits within the bound, and both sets together within twice the bound. -/
theorem bounded_perform (healthy : s.database.Healthy) (countable : s.Countable)
    (held : ∀ category, (s.database.pair category).Exclusive) (bounded : s.Bounded) (c : Call) :
    (s.perform c).Bounded := by
  intro category
  have cap : (s.perform c).cap = s.cap := congrArg (·.maxSetSize.toNat) (perform_reaches s c).config
  obtain ⟨hits, both⟩ := bounded category
  rw [cap]
  by_cases refreshed : ∃ around, s.Refreshed around category c
  · obtain ⟨around, refreshed⟩ := refreshed
    have reconciled := reconciled_perform healthy refreshed
    have fewer := reconciled.size_hit_le
    have total := reconciled.size_add_le (held category)
    omega
  · rcases size_perform healthy countable held (not_exists.mp refreshed) with smaller | cut
    · have hit := smaller .hit
      have passthrough := smaller .passthrough
      omega
    · have hit := cut .hit
      have passthrough := cut .passthrough
      omega

/-- Within the bound before a call, the sets are so after it exactly if it fits. -/
theorem capped_perform_iff (healthy : s.database.Healthy) (countable : s.Countable)
    (held : ∀ category, (s.database.pair category).Exclusive) (capped : s.Capped) (c : Call) :
    (s.perform c).Capped ↔ s.Fits c := by
  have cap : (s.perform c).cap = s.cap := congrArg (·.maxSetSize.toNat) (perform_reaches s c).config
  constructor
  · intro after around category refreshed
    rw [← size_passthrough_perform healthy held refreshed, ← cap]
    exact after category .passthrough
  · intro fits category side
    rw [cap]
    by_cases refreshed : ∃ around, s.Refreshed around category c
    · obtain ⟨around, refreshed⟩ := refreshed
      cases side with
      | hit =>
        have fewer := (reconciled_perform healthy refreshed).size_hit_le
        have hits := capped category .hit
        omega
      | passthrough =>
        rw [size_passthrough_perform healthy held refreshed]
        exact fits around category refreshed
    · rcases size_perform healthy countable held (not_exists.mp refreshed) with smaller | cut
      · exact Nat.le_trans (smaller side) (capped category side)
      · exact cut side

/-! ### Runs -/

/-- A state of a run without storage failures. -/
structure Sound (s : State) : Prop where
  healthy : s.database.Healthy
  exclusive : ∀ category, (s.database.pair category).Exclusive
  bounded : s.Bounded

theorem sound_step (sound : s.Sound) (countable : s.Countable) (step : Step) : (s.step step).Sound := by
  have trail := step_trail s step
  refine ⟨trail.healthy sound.healthy, fun category => trail.exclusive (sound.exclusive category), ?_⟩
  cases step with
  | call c => exact bounded_perform sound.healthy countable sound.exclusive sound.bounded c
  | configure registry => exact sound.bounded

theorem sound_empty (empty : ∀ key, s.database.setAt key = .empty) (healthy : s.database.Healthy) :
    s.Sound := by
  have none : ∀ category side, s.database.pair category side = .empty := fun _ _ => empty _
  refine ⟨healthy, fun category name both => ?_, fun category => ?_⟩
  · rw [none, SortedSet.contains_empty] at both
    cases both.1
  · rw [none, none]
    exact ⟨Nat.zero_le _, Nat.zero_le _⟩

/-- What holds of every state of a run that the database can count. -/
theorem sound_run (steps : List Step) :
    ∀ s : State, s.Sound → (∀ done, done <+: steps → (s.run done).Countable) → (s.run steps).Sound := by
  induction steps with
  | nil => exact fun _ sound _ => sound
  | cons step rest ih =>
    intro s sound countable
    refine ih (s.step step) (sound_step sound (countable [] List.nil_prefix) step) fun done before => ?_
    exact countable (step :: done) (List.cons_prefix_cons.mpr ⟨rfl, before⟩)

/-- Calls that fit keep the sets within the bound. -/
theorem capped_run (steps : List Step) :
    ∀ s : State, s.Sound → (∀ done, done <+: steps → (s.run done).Countable) → s.Capped →
      (∀ done c, done ++ [.call c] <+: steps → (s.run done).Fits c) → (s.run steps).Capped := by
  induction steps with
  | nil => exact fun _ _ _ capped _ => capped
  | cons step rest ih =>
    intro s sound countable capped fits
    have here : s.Countable := countable [] List.nil_prefix
    have next : (s.step step).Capped := by
      cases step with
      | call c =>
        have first : s.Fits c := fits [] c (List.cons_prefix_cons.mpr ⟨rfl, List.nil_prefix⟩)
        exact (capped_perform_iff sound.healthy here sound.exclusive capped c).mpr first
      | configure registry => exact capped
    refine ih (s.step step) (sound_step sound here step) (fun done before => ?_) next
      fun done c before => ?_
    · exact countable (step :: done) (List.cons_prefix_cons.mpr ⟨rfl, before⟩)
    · exact fits (step :: done) c (List.cons_prefix_cons.mpr ⟨rfl, before⟩)

/-- **The bound holds exactly while refreshes fit.** In a run from empty sets without storage failures
the hits never pass the bound, nor both sets of a category together twice the bound; and after each step
all sets are within the bound exactly if each refresh leaves room for the hits that it makes
passthroughs. -/
theorem capped_run_iff (s : State) (steps : List Step) (empty : ∀ key, s.database.setAt key = .empty)
    (healthy : s.database.Healthy) (countable : ∀ done, done <+: steps → (s.run done).Countable) :
    (∀ done, done <+: steps → (s.run done).Bounded) ∧
      ((∀ done, done <+: steps → (s.run done).Capped) ↔
        ∀ done c, done ++ [.call c] <+: steps → (s.run done).Fits c) := by
  have start := sound_empty empty healthy
  have sound : ∀ done, done <+: steps → (s.run done).Sound := fun done before =>
    sound_run done s start fun earlier within => countable earlier (within.trans before)
  refine ⟨fun done before => (sound done before).bounded, ?_, ?_⟩
  · intro capped done c before
    have earlier : done <+: steps := (List.prefix_append done [.call c]).trans before
    have now := sound done earlier
    refine (capped_perform_iff now.healthy (countable done earlier) now.exclusive
      (capped done earlier) c).mp ?_
    have after := capped (done ++ [.call c]) before
    unfold run at after
    rwa [List.foldl_append] at after
  · intro fits done before
    have first : s.Capped := by
      intro category side
      have none : s.database.pair category side = .empty := empty _
      rw [none]
      exact Nat.zero_le _
    exact capped_run done s start (fun earlier within => countable earlier (within.trans before)) first
      fun earlier c within => fits earlier c (within.trans before)

/-! ### Two runs, one of which passes the bound -/

/-- Small sets and a short queue can be counted. -/
theorem countable_of_holdsAtMost {limit : Nat} (small : s.database.HoldsAtMost limit)
    (few : limit + s.session.queue.size < SortedSet.countBound) : s.Countable := by
  intro category side
  have size : (s.database.pair category side).size ≤ limit := Database.size_setAt_le small _
  omega

/-- Surroundings in which the local filter finds every domain and the list file holds one. -/
def oneListed : Surroundings where
  services := {
    checkFilter := fun _ => .ok ⟨[⟨"category:games", "", .hit⟩]⟩
    membership := fun _ _ => .error .http
    intel := fun _ _ _ => .error .http
    listFile := fun _ => .ok "a.com\n".toUTF8 }
  clock _ := 1
  instant := 0
  stopped _ := false

/-- A category with a list file. -/
def listed : Definition :=
  { Definition.new "games" with strategy := .file }

/-- A new state whose sets may have one member each. -/
def single : State :=
  .new { Config.standard with maxSetSize := 1, categories := [listed] } .new

/-- A hit and a passthrough are found; then the hit is excluded. -/
def overfill : List Step :=
  [.call (.detect oneListed "a.com"), .call (.detect oneListed "b.com"), .call (.confirm oneListed),
    .configure ⟨[{ listed with excludedDomains := ["a.com"] }]⟩, .call (.refresh oneListed "games")]

/-- A new state whose sets may have two members each. -/
def roomy : State :=
  .new { Config.standard with maxSetSize := 2, categories := [listed] } .new

/-- The state after the confirmation of that run, whose candidates wait in order. -/
def roomyConfirmed : State :=
  let found := roomy.run (overfill.take 2)
  ((found.session.queue.pending.foldr addToGroups []).foldl
    (confirmGroup oneListed.services oneListed.clock) found.drained).1

theorem run_roomy (later : List Step) :
    roomy.run (overfill.take 3 ++ later) = roomyConfirmed.run later := by
  have sorted : (roomy.run (overfill.take 2)).session.queue.pending.Pairwise
      fun p q => notAfter p q = true := by
    decide +kernel
  -- The sort is by well-founded recursion, so the groups are taken from the batch, which is in order.
  rw [roomyConfirmed, ← groupByCategory_of_sorted sorted, ← confirmQueued_fst]
  exact List.foldl_append ..

/-- No set and no queue of the run has more than two members. -/
theorem few_roomy {done : List Step} (before : done <+: overfill) :
    (roomy.run done).database.HoldsAtMost 2 ∧ (roomy.run done).session.queue.size ≤ 2 := by
  have early : ∀ n < 3, (roomy.run (overfill.take n)).database.HoldsAtMost 2 ∧
      (roomy.run (overfill.take n)).session.queue.size ≤ 2 := by
    decide +kernel
  have late : ∀ n < 3, (roomyConfirmed.run ((overfill.drop 3).take n)).database.HoldsAtMost 2 ∧
      (roomyConfirmed.run ((overfill.drop 3).take n)).session.queue.size ≤ 2 := by
    decide +kernel
  have short : done.length ≤ 5 := before.length_le
  rw [List.prefix_iff_eq_take.mp before]
  rcases Nat.lt_or_ge done.length 3 with first | later
  · exact early _ first
  · obtain ⟨n, length⟩ := Nat.exists_eq_add_of_le later
    rw [length, List.take_add, run_roomy]
    exact late n (by omega)

/-- Its one refresh makes the excluded hit a passthrough beside the one that is there. -/
theorem fits_roomy {done : List Step} {c : Call} (before : done ++ [.call c] <+: overfill) :
    (roomy.run done).Fits c := by
  have room : ((roomyConfirmed.run ((overfill.drop 3).take 1)).excludedHits "games").length +
      ((roomyConfirmed.run ((overfill.drop 3).take 1)).spared oneListed "games").length ≤
        (roomyConfirmed.run ((overfill.drop 3).take 1)).cap := by
    decide +kernel
  obtain ⟨rest, whole⟩ := before
  rw [← run_roomy] at room
  rintro around category refreshed
  unfold overfill at whole
  rcases done with _ | ⟨_, _ | ⟨_, _ | ⟨_, _ | ⟨_, _ | ⟨_, more⟩⟩⟩⟩⟩
  · cases whole
    exact refreshed.elim
  · cases whole
    exact refreshed.elim
  · cases whole
    exact refreshed.elim
  · cases whole
  · cases whole
    obtain ⟨rfl, rfl, -⟩ := refreshed
    exact room
  · simp at whole

/-- With room for two members the same run stays within the bound: the excluded hit fits. -/
theorem capped_run_iff_roomy :
    (∀ key, roomy.database.setAt key = .empty) ∧ roomy.database.Healthy ∧
      (∀ done, done <+: overfill → (roomy.run done).Countable) ∧
      (∀ done, done <+: overfill → (roomy.run done).Bounded) ∧
      (∀ done c, done ++ [.call c] <+: overfill → (roomy.run done).Fits c) ∧
      (∀ done, done <+: overfill → (roomy.run done).Capped) ∧
      ((roomy.run overfill).database.pair "games" .passthrough).members = ["a.com", "b.com"] := by
  have countable : ∀ done, done <+: overfill → (roomy.run done).Countable := by
    intro done before
    obtain ⟨small, few⟩ := few_roomy before
    exact countable_of_holdsAtMost small (Nat.lt_of_le_of_lt (Nat.add_le_add_left few 2) (by decide))
  have fits : ∀ done c, done ++ [.call c] <+: overfill → (roomy.run done).Fits c :=
    fun _ _ => fits_roomy
  have last : roomy.run overfill = roomyConfirmed.run (overfill.drop 3) := run_roomy (overfill.drop 3)
  obtain ⟨bounded, capped⟩ := capped_run_iff roomy overfill (fun _ => rfl) ⟨rfl, rfl⟩ countable
  refine ⟨fun _ => rfl, ⟨rfl, rfl⟩, countable, bounded, fits, capped.mpr fits, ?_⟩
  rw [last]
  decide +kernel

/-- From empty sets, without storage failures, the run ends with two passthroughs where one is allowed. -/
theorem refresh_over_cap :
    (∀ key, single.database.setAt key = .empty) ∧ single.database.Healthy ∧ single.cap = 1 ∧
      ((single.run overfill).database.pair "games" .passthrough).size = 2 := by
  let found := single.run (overfill.take 2)
  have sorted : found.session.queue.pending.Pairwise fun p q => notAfter p q = true := by
    decide +kernel
  have run : single.run overfill =
      (found.confirmQueued oneListed.services oneListed.clock).1.run (overfill.drop 3) := rfl
  refine ⟨fun _ => rfl, ⟨rfl, rfl⟩, rfl, ?_⟩
  -- The sort is by well-founded recursion, so the groups are taken from the batch, which is in order.
  rw [run, confirmQueued_fst, groupByCategory_of_sorted sorted]
  decide +kernel

end CategoryFilter.State
