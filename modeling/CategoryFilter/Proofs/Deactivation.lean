/-
**When the sets of a deactivated category stay empty.**

A deactivation deletes the sets of a category and leaves the queue alone. While the category is not
active, detections add no candidates of it, but a confirmation does not look at the activity, so that it
records what was waiting when the sets were deleted:

* `cleared_deactivate`: the sets are empty when the deletion has answered.
* `cleared_perform`: no call fills them again but a confirmation that settles a candidate of the category.
* `not_cleared_confirm`: such a confirmation does fill them.
* `deactivated_stays_empty`: so they stay empty through a run exactly if there is none, and surely if no
  candidate of the category was waiting.
* `deactivated_stays_empty_retiring`, `deactivated_refilled`: a run that leaves them empty, and one that fills
  them.
-/

import CategoryFilter.Proofs.Examiner.Waiting
import CategoryFilter.Proofs.Reexamination
import CategoryFilter.Proofs.SetCap

namespace CategoryFilter

theorem SetPair.after_empty {p : SetPair} {w : Write} (shrinks : w.Shrinks)
    (empty : ∀ side, p side = .empty) (side : Side) : p.after w side = .empty := by
  refine SortedSet.eq_empty_of_forall fun name => Bool.eq_false_iff.mpr fun held => ?_
  have before := (SetPair.after_within shrinks side).contains held
  rw [empty, SortedSet.contains_empty] at before
  cases before

namespace State

open Database (Trail)
open Category (setKeys)

variable {s t : State} {category : String}

/-- Both sets of a category are empty. -/
def Cleared (s : State) (category : String) : Prop :=
  ∀ side, s.database.pair category side = .empty

/-- A confirmation settles a waiting candidate of a category. -/
def SettlesSome (s : State) (services : Services) (category : String) : Prop :=
  ∃ confirmation p, p.1.category = category ∧ s.Settles services confirmation p

/-- **Sets that have been deleted are empty.** -/
theorem cleared_deactivate {had : Bool} (done : (s.deactivate category).2 = .ok had) :
    (s.deactivate category).1.Cleared category := by
  unfold deactivate at done ⊢
  rcases step : s.act (Classification.clear (setKeys category)) with ⟨t, _ | cleared⟩
  · rw [step] at done
    cases done
  · have answer := congrArg Prod.snd step
    have after := congrArg (fun last => last.1.database) step
    rw [act_snd] at answer
    rw [act_fst] at after
    intro side
    show (t.notifyIf cleared category).database.pair category side = .empty
    rw [database_notifyIf, ← show _ = t.database from after]
    exact Database.clear_done answer side

/-! ### Calls that fill no empty sets -/

/-- Writes that leave the sets of a category empty keep it cleared. -/
theorem Cleared.of_trail {may : Database → Write → Prop} (cleared : s.Cleared category)
    (trail : Trail may s.database t.database)
    (kept : ∀ db w, may db w → (∀ side, db.pair category side = .empty) → w.category = category →
      ∀ side, (db.pair category).after w side = .empty) : t.Cleared category := by
  refine trail.preserves (P := fun db => ∀ side, db.pair category side = .empty)
    (fun db w allowed empty => ?_) cleared
  rw [Database.pair_write]
  split
  · next own => exact kept db w allowed empty own
  · exact empty

theorem cleared_detect (cleared : s.Cleared category) (around : Surroundings) (origin : String) :
    (s.detect around origin).1.Cleared category := by
  refine cleared.of_trail (detect_reaches s around origin).trail ?_
  rintro db _ ⟨-, held, -⟩ empty own
  next other m score =>
  have own : other = category := own
  rw [own, empty, SortedSet.contains_empty] at held
  cases held

theorem cleared_refresh (cleared : s.Cleared category) (around : Surroundings) (name : String) :
    (s.refresh around name).1.Cleared category := by
  by_cases same : name = category
  · subst same
    have none : s.memberCount name = 0 := by
      unfold memberCount
      rw [cleared, cleared]
      rfl
    by_cases going : s.Refreshable around name
    · rwa [refresh_nothing going (Or.inr none)]
    · rwa [refresh_idle going]
  · refine cleared.of_trail (refresh_reaches_all s around name).trail fun _ _ allowed _ own => ?_
    exact absurd ((category_of_refreshes allowed).symm.trans own) same

theorem cleared_refreshEach (around : Surroundings) (categories : List String) :
    ∀ s : State, s.Cleared category → (s.refreshEach around categories).1.Cleared category := by
  induction categories with
  | nil => exact fun _ cleared => cleared
  | cons name rest ih =>
    intro s cleared
    rw [refreshEach_cons]
    split
    · exact cleared
    · exact ih _ (cleared_refresh cleared around name)

/-- A confirmation without answers to its keys only cuts the sets. -/
theorem settleAll_unanswered (s : State) (clock : Clock) (ruling : Ruling) {items : List Pending}
    (failed : ∀ p ∈ items, ruling.confirmation.failed.contains (ruling.source.key p.1) = true) :
    Trail (Database.Cuts ruling.category) s.database (s.settleAll clock ruling items).1.database := by
  have settled : Reaches (Database.Cuts ruling.category) s (s.settled clock ruling items) :=
    foldl_reaches Settling.state (settle clock ruling) items ⟨s, .empty, []⟩ fun at_ p listed _ => by
      rw [settle_failed clock (failed p listed)]
      exact requeue_reaches _ _
  have cut : Reaches (Database.Cuts ruling.category) (s.settled clock ruling items)
      ((s.settled clock ruling items).trimSets ruling.category).1 :=
    apply_reaches (Database.trail_bind (Database.trail_trim _ _ _) fun _ last => Trail.refl last)
  exact (settled.trans cut).trail

/-- **A confirmation that settles no candidate of a category fills none of its sets.** -/
theorem cleared_confirm (cleared : s.Cleared category) {services : Services}
    (none : ¬ s.SettlesSome services category) (clock : Clock) :
    (s.confirmQueued services clock).1.Cleared category := by
  by_cases waits : ∃ p ∈ s.session.queue.pending, p.1.category = category
  · obtain ⟨p, waiting, own⟩ := waits
    obtain ⟨u, turn, after⟩ := exists_turn waiting own services clock
    have start : u.Cleared category := fun side => (congrFun turn.pair side).trans (cleared side)
    suffices last : (u.confirmCategory services clock category
        (s.candidates category)).1.Cleared category from
      fun side => (congrFun after side).trans (last side)
    cases strategy : (u.registry.strategy category).updateConfirmSet with
    | false => rwa [confirmCategory_ignored strategy]
    | true =>
      cases answer : (u.consult services category (s.candidates category)).2 with
      | error cause =>
        rw [confirmCategory_failed strategy answer]
        intro side
        rw [pair_requeueAll]
        exact start side
      | ok confirmation =>
        rw [confirmCategory_answered strategy answer]
        have failed : ∀ q ∈ s.candidates category,
            confirmation.failed.contains ((u.source category).key q.1) = true := by
          intro q listed
          obtain ⟨there, same⟩ := List.mem_filter.mp listed
          have same : q.1.category = category := of_decide_eq_true same
          by_contra answered
          refine none ⟨confirmation, q, same, mem_sortPending.mp there, ?_, ?_, ?_⟩
          · rw [same, ← turn.registry]
            exact strategy
          · rw [same, ← turn.consult_eq]
            exact answer
          · rw [same]
            have sources : u.source category = s.source category := by
              unfold source
              rw [turn.registry]
            rw [← sources]
            exact Bool.eq_false_iff.mpr answered
        have trail := settleAll_unanswered (u.ask (u.consult services category
          (s.candidates category)).1) clock (u.ruling clock category confirmation) failed
        refine start.of_trail trail ?_
        rintro db _ ⟨side, start, stop, rfl⟩ empty -
        exact SetPair.after_empty trivial empty
  · have kept := pair_confirmQueued_none (fun p waiting own => waits ⟨p, waiting, own⟩) services clock
    exact fun side => (congrFun kept side).trans (cleared side)

/-- **Empty sets stay empty**, unless a confirmation settles a candidate of their category. -/
theorem cleared_perform (cleared : s.Cleared category) (c : Call)
    (none : ∀ around, c = .confirm around → ¬ s.SettlesSome around.services category) :
    (s.perform c).Cleared category := by
  cases c with
  | detect around origin => exact cleared_detect cleared around origin
  | confirm around => exact cleared_confirm cleared (none around rfl) around.clock
  | refresh around name => exact cleared_refresh cleared around name
  | refreshAll around => exact cleared_refreshEach around _ s cleared
  | deactivate name =>
    refine cleared.of_trail (deactivate_reaches s name).trail ?_
    rintro db _ ⟨side, rfl⟩ empty -
    exact SetPair.after_empty trivial empty

theorem cleared_run (steps : List Step) :
    ∀ s : State, s.Cleared category →
      (∀ before around, before ++ [.call (.confirm around)] <+: steps →
        ¬ (s.run before).SettlesSome around.services category) →
      (s.run steps).Cleared category := by
  induction steps with
  | nil => exact fun _ cleared _ => cleared
  | cons step rest ih =>
    intro s cleared none
    have next : (s.step step).Cleared category := by
      cases step with
      | configure registry => exact cleared
      | call c =>
        refine cleared_perform cleared c ?_
        rintro around rfl
        exact none [] around (List.cons_prefix_cons.mpr ⟨rfl, List.nil_prefix⟩)
    exact ih (s.step step) next fun before around within =>
      none (step :: before) around (List.cons_prefix_cons.mpr ⟨rfl, within⟩)

/-! ### Confirmations that fill them -/

/-- **A confirmation that settles a candidate leaves members**, if there is room for one. -/
theorem not_cleared_confirm (healthy : s.database.Healthy) (room : 0 < s.cap)
    (countable : s.Countable) {services : Services} (some : s.SettlesSome services category)
    (clock : Clock) : ¬ (s.confirmQueued services clock).1.Cleared category := by
  obtain ⟨confirmation, p, rfl, settles⟩ := some
  obtain ⟨u, turn, after⟩ := exists_turn settles.waiting rfl services clock
  let items := s.candidates p.1.category
  -- The candidate's name is in one of the two sets, wherever its last recording put it.
  obtain ⟨m, entry, -⟩ := settles.entry clock
  have listed : m ∈ (s.ruling clock p.1.category confirmation).entries items :=
    List.mem_flatMap.mpr ⟨p, mem_candidates settles.waiting, Option.mem_toList.mpr entry⟩
  have last : SetPair.lastSide? m.domain ((s.ruling clock p.1.category confirmation).entries items) ≠
      none := fun none => SetPair.lastSide?_eq_none_iff.mp none m listed rfl
  obtain ⟨side, last⟩ := Option.ne_none_iff_exists'.mp last
  have held : (s.recorded clock p.1.category confirmation items side).contains m.domain = true := by
    unfold recorded
    rw [SetPair.contains_recordAll, last]
    exact decide_eq_true rfl
  intro cleared
  have empty := cleared side
  rw [after, pair_confirmCategory (turn.healthy healthy) (by rw [turn.registry]; exact settles.recorded)
    (by rw [turn.consult_eq]; exact settles.answered) clock
    (countable.recorded turn clock confirmation)] at empty
  rw [turn.recorded_eq, turn.config] at empty
  have size : min (s.recorded clock p.1.category confirmation items side).size s.cap = 0 :=
    (SortedSet.size_newest _).symm.trans (congrArg SortedSet.size empty)
  have positive := SortedSet.size_pos held
  omega

/-- Candidates of a category that is not active were waiting from the beginning. -/
theorem waits_run {x : Candidate} (steps : List Step) :
    ∀ s : State, (∀ before, before <+: steps →
        (s.run before).registry.isActive x.category = false) →
      (s.run steps).Waits x → s.Waits x := by
  induction steps with
  | nil => exact fun _ _ waits => waits
  | cons step rest ih =>
    intro s inactive waits
    have first := ih (s.step step) (fun before within =>
      inactive (step :: before) (List.cons_prefix_cons.mpr ⟨rfl, within⟩)) waits
    cases step with
    | configure registry => exact first
    | call c =>
      refine (waits_perform first).resolve_right fun active => ?_
      rw [show s.registry.isActive x.category = false from inactive [] List.nil_prefix] at active
      cases active

/-! ### Runs after a deactivation -/

/-- What a run keeps besides the sets. -/
theorem run_kept (steps : List Step) :
    ∀ s : State, (s.run steps).config = s.config ∧
      (s.database.Healthy → (s.run steps).database.Healthy) := by
  induction steps with
  | nil => exact fun _ => ⟨rfl, id⟩
  | cons step rest ih =>
    intro s
    obtain ⟨config, healthy⟩ := ih (s.step step)
    refine ⟨config.trans ?_, fun sound => healthy ((step_trail s step).healthy sound)⟩
    cases step with
    | call c => exact (perform_reaches s c).config
    | configure registry => rfl

/-- **A deactivated category stays empty exactly while no confirmation settles a candidate of it.** After
a deletion that succeeded, while the category is not active, no other step of a run fills its sets; without
storage failures such a confirmation does; and it takes a candidate that was waiting at the
deletion. -/
theorem deactivated_stays_empty {had : Bool} (done : (s.deactivate category).2 = .ok had)
    (steps : List Step)
    (inactive : ∀ before, before <+: steps →
      ((s.deactivate category).1.run before).registry.isActive category = false) :
    let t := (s.deactivate category).1
    ((∀ before around, before ++ [.call (.confirm around)] <+: steps →
        ¬ (t.run before).SettlesSome around.services category) →
      ∀ before, before <+: steps → (t.run before).Cleared category) ∧
    (s.database.Healthy → 0 < s.cap → (∀ before, before <+: steps → (t.run before).Countable) →
      (∀ before, before <+: steps → (t.run before).Cleared category) →
      ∀ before around, before ++ [.call (.confirm around)] <+: steps →
        ¬ (t.run before).SettlesSome around.services category) ∧
    ((∀ x, s.Waits x → x.category ≠ category) →
      ∀ before, before <+: steps → (t.run before).Cleared category) := by
  intro t
  have start : t.Cleared category := cleared_deactivate done
  have stays : (∀ before around, before ++ [.call (.confirm around)] <+: steps →
        ¬ (t.run before).SettlesSome around.services category) →
      ∀ before, before <+: steps → (t.run before).Cleared category :=
    fun none before within => cleared_run before t start fun earlier around first =>
      none earlier around (first.trans within)
  refine ⟨stays, fun healthy room countable cleared before around within some => ?_,
    fun free => stays fun before around within some => ?_⟩
  · have earlier : before <+: steps := (List.prefix_append _ _).trans within
    have after := cleared _ within
    have split : t.run (before ++ [.call (.confirm around)]) =
        ((t.run before).confirmQueued around.services around.clock).1 := List.foldl_append ..
    have reached := deactivate_reaches s category
    have kept := run_kept before t
    rw [split] at after
    refine not_cleared_confirm (kept.2 (reached.trail.healthy healthy)) ?_ (countable before earlier)
      some around.clock after
    unfold cap
    rwa [kept.1, reached.config]
  · obtain ⟨confirmation, p, own, settles⟩ := some
    have earlier : before <+: steps := (List.prefix_append _ _).trans within
    have waits : t.Waits p.1 := by
      refine waits_run before t (fun first start => ?_) ⟨p.2, settles.waiting⟩
      rw [own]
      exact inactive first (start.trans earlier)
    unfold Waits at waits
    rw [session_deactivate] at waits
    exact free p.1 waits own

/-! ### A category that stays empty -/

/-- A category whose matches are recorded without another source. -/
def trusting : Definition :=
  { Definition.new "games" with strategy := .trustLocal }

/-- Another category whose matches are recorded without another source. -/
def trustingToo : Definition :=
  { Definition.new "social" with strategy := .trustLocal }

/-- Surroundings in which the local filter finds every domain in that one. -/
def socialFound : Surroundings :=
  { oneListed with
    services := { oneListed.services with checkFilter := fun _ => .ok ⟨[⟨"category:social", "", .hit⟩]⟩ } }

/-- The first category is switched off with a hit and a passthrough, while a candidate of the other one
waits. -/
def retiring : State :=
  (State.new { Config.standard with categories := [trusting, trustingToo] }
      ((Database.new.replace (Category.hitKey "games") (SortedSet.empty.insert "a.com" 1)).replace
        (Category.passthroughKey "games") (SortedSet.empty.insert "b.com" 2))).run
    [.call (.detect socialFound "c.com"), .configure ⟨[{ trusting with active := false }, trustingToo]⟩]

/-- The candidate is confirmed, the first category has a match again, and everything is refreshed. -/
def afterwards : List Step :=
  [.call (.confirm socialFound), .call (.detect oneListed "d.com"), .call (.refreshAll socialFound)]

/-- The state after that confirmation, whose candidates wait in order. -/
def retiringConfirmed : State :=
  let t := (retiring.deactivate "games").1
  ((t.session.queue.pending.foldr addToGroups []).foldl
    (confirmGroup socialFound.services socialFound.clock) t.drained).1

theorem run_retiring (later : List Step) :
    (retiring.deactivate "games").1.run (afterwards.take 1 ++ later) = retiringConfirmed.run later := by
  have sorted : (retiring.deactivate "games").1.session.queue.pending.Pairwise
      fun p q => notAfter p q = true := by
    decide +kernel
  -- The sort is by well-founded recursion, so the groups are taken from the batch, which is in order.
  rw [retiringConfirmed, ← groupByCategory_of_sorted sorted, ← confirmQueued_fst]
  exact List.foldl_append ..

/-- The first category is off all the time, and no set and no queue has more than one member. -/
theorem few_retiring {done : List Step} (before : done <+: afterwards) :
    ((retiring.deactivate "games").1.run done).registry.isActive "games" = false ∧
      ((retiring.deactivate "games").1.run done).database.HoldsAtMost 1 ∧
      ((retiring.deactivate "games").1.run done).session.queue.size ≤ 1 := by
  have early : (retiring.deactivate "games").1.registry.isActive "games" = false ∧
      (retiring.deactivate "games").1.database.HoldsAtMost 1 ∧
      (retiring.deactivate "games").1.session.queue.size ≤ 1 := by
    decide +kernel
  have late : ∀ n < 3, (retiringConfirmed.run ((afterwards.drop 1).take n)).registry.isActive "games" =
        false ∧
      (retiringConfirmed.run ((afterwards.drop 1).take n)).database.HoldsAtMost 1 ∧
      (retiringConfirmed.run ((afterwards.drop 1).take n)).session.queue.size ≤ 1 := by
    decide +kernel
  have short : done.length ≤ 3 := before.length_le
  rw [List.prefix_iff_eq_take.mp before]
  rcases Nat.eq_zero_or_pos done.length with none | some
  · rw [none]
    exact early
  · obtain ⟨n, length⟩ := Nat.exists_eq_add_of_le some
    rw [length, List.take_add, run_retiring]
    exact late n (by omega)

/-- The sets are deleted and stay empty, while the candidate that waits is recorded. -/
theorem deactivated_stays_empty_retiring :
    (retiring.deactivate "games").2 = .ok true ∧
      (∀ before, before <+: afterwards →
        ((retiring.deactivate "games").1.run before).registry.isActive "games" = false) ∧
      retiring.database.Healthy ∧ 0 < retiring.cap ∧
      (∀ before, before <+: afterwards → ((retiring.deactivate "games").1.run before).Countable) ∧
      (∃ x, retiring.Waits x) ∧ (∀ x, retiring.Waits x → x.category ≠ "games") ∧
      (∀ before, before <+: afterwards →
        ((retiring.deactivate "games").1.run before).Cleared "games") ∧
      (∀ before around, before ++ [.call (.confirm around)] <+: afterwards →
        ¬ ((retiring.deactivate "games").1.run before).SettlesSome around.services "games") ∧
      (((retiring.deactivate "games").1.run afterwards).database.pair "social" .hit).contains "c.com" =
        true := by
  let t := (retiring.deactivate "games").1
  have done : (retiring.deactivate "games").2 = .ok true := by decide +kernel
  have inactive : ∀ before, before <+: afterwards → (t.run before).registry.isActive "games" = false :=
    fun _ within => (few_retiring within).1
  have countable : ∀ before, before <+: afterwards → (t.run before).Countable := by
    intro before within
    obtain ⟨-, small, few⟩ := few_retiring within
    exact countable_of_holdsAtMost small (Nat.lt_of_le_of_lt (Nat.add_le_add_left few 1) (by decide))
  have waiting : retiring.session.queue.pending = [(⟨"social", "c.com", "c.com"⟩, 0)] := by decide +kernel
  have waits : ∀ x, retiring.Waits x ↔ x = ⟨"social", "c.com", "c.com"⟩ := by
    intro x
    unfold Waits Queue.Holds
    rw [waiting]
    simp
  have free : ∀ x, retiring.Waits x → x.category ≠ "games" := by
    intro x there
    rw [(waits x).mp there]
    decide
  have healthy : retiring.database.Healthy := ⟨rfl, rfl⟩
  have room : 0 < retiring.cap := by decide +kernel
  obtain ⟨-, exactly, surely⟩ := deactivated_stays_empty done afterwards inactive
  have last : t.run afterwards = retiringConfirmed.run (afterwards.drop 1) := run_retiring (afterwards.drop 1)
  refine ⟨done, inactive, healthy, room, countable, ⟨_, (waits _).mpr rfl⟩, free, surely free,
    exactly healthy room countable (surely free), ?_⟩
  rw [last]
  decide +kernel

/-! ### A category that is filled -/

/-- A new state with the first category alone. -/
def trustingState : State :=
  .new { Config.standard with categories := [trusting] } .new

/-- A match waits when its category is switched off. -/
def dormant : State :=
  trustingState.run
    [.call (.detect oneListed "a.com"), .configure ⟨[{ trusting with active := false }]⟩]

/-- **A confirmation fills the sets of a deactivated category.** Its match was waiting when the sets were
deleted, and the category was off before that and stays so. -/
theorem deactivated_refilled :
    dormant.registry.isActive "games" = false ∧ (dormant.deactivate "games").2 = .ok false ∧
      ((dormant.deactivate "games").1.run [.call (.confirm oneListed)]).registry.isActive "games" =
        false ∧
      (((dormant.deactivate "games").1.run [.call (.confirm oneListed)]).database.pair "games"
        .hit).contains "a.com" = true := by
  let t := (dormant.deactivate "games").1
  have sorted : t.session.queue.pending.Pairwise fun p q => notAfter p q = true := by
    decide +kernel
  have run : t.run [.call (.confirm oneListed)] =
      (t.confirmQueued oneListed.services oneListed.clock).1 := rfl
  refine ⟨by decide +kernel, by decide +kernel, ?_, ?_⟩
  · rw [run, (confirmQueued_reaches t _ _).registry]
    decide +kernel
  · -- The sort is by well-founded recursion, so the group is taken from the batch, which is in order.
    rw [run, confirmQueued_fst, groupByCategory_of_sorted sorted]
    decide +kernel

end State

end CategoryFilter
