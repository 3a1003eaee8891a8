/-
**Operations on a category in two states that it cannot tell apart.**

Two states are `Twins` for a category if their databases are alike for it and they have the same registry,
configuration, switch and bound on attempts. What waits in the queue, the sets of other categories and what
was sent or asked before may differ. An operation is `Paired` in two states if it has the same result in both
and leaves them twins.

* `Twins.confirmCategory`: so is a confirmation of the category, if its source gives the same answers.
* `Twins.refresh`: so is a refresh without shutdown, if its questions get the same answers.
* `Twins.aside`: what is done for other categories leaves twins.
-/

import CategoryFilter.Proofs.Confirm.Agreement
import CategoryFilter.Proofs.Examiner.Aside
import CategoryFilter.Proofs.Examiner.RefreshEnding

namespace CategoryFilter

open Category (setKeys)

/-- Two clocks read the same for a category. -/
structure SameReadings (category : String) (clock other : Clock) : Prop where
  confirmation : other (.confirmation category) = clock (.confirmation category)
  feed : ∀ pattern, other (.feed category pattern) = clock (.feed category pattern)
  refresh : other (.refresh category) = clock (.refresh category)

namespace State

open Database (Alike Blind SameSets)

variable {α : Type} {s t u v : State} {category : String} {named : String → Prop}
  {services others : Services} {clock later : Clock} {items : List Pending}

/-- Two states that a category cannot tell apart, which meets certain names only. -/
structure Twins (category : String) (named : String → Prop) (s t : State) : Prop where
  database : Alike category named s.database t.database
  registry : t.registry = s.registry
  config : t.config = s.config
  enabled : t.session.enabled = s.session.enabled
  attempts : t.session.queue.maxAttempts = s.session.queue.maxAttempts

/-- Two ends of an operation with one result, in twin states. -/
structure Paired (category : String) (named : String → Prop) (done other : State × α) : Prop where
  result : other.2 = done.2
  states : Twins category named done.1 other.1

namespace Twins

/-- **What is done for other categories leaves twins.** -/
theorem aside (twins : Twins category named s t) (one : Aside category s u) (two : Aside category t v) :
    Twins category named u v := by
  refine ⟨⟨?_, one.sets.symm.trans (twins.database.sets.trans two.sets), fun name met => ?_,
    fun side name held => ?_⟩, ?_, ?_, ?_, ?_⟩
  · rw [two.present, one.present, twins.database.present]
  · rw [two.guarded, one.guarded, twins.database.guards name met]
  · rw [one.sets.pair] at held
    exact twins.database.inside side name held
  · rw [two.registry, one.registry, twins.registry]
  · rw [two.config, one.config, twins.config]
  · rw [two.enabled, one.enabled, twins.enabled]
  · rw [two.attempts, one.attempts, twins.attempts]

/-! ### Parts of an operation -/

theorem act {action : Action α} (twins : Twins category named s t) (blind : Blind category named action) :
    Paired category named (s.act action) (t.act action) := by
  obtain ⟨same, alike⟩ := blind s.database t.database twins.database
  exact ⟨same, ⟨alike, twins.registry, twins.config, twins.enabled, twins.attempts⟩⟩

theorem apply {action : Action Bool} (twins : Twins category named s t)
    (blind : Blind category named action) :
    Paired category named (s.apply action) (t.apply action) := by
  have paired := twins.act blind
  unfold State.apply
  rcases one : s.act action with ⟨u, _ | changed⟩ <;> rcases two : t.act action with ⟨v, _ | other⟩
  all_goals rw [one, two] at paired; obtain ⟨same, twins⟩ := paired; cases same
  · exact ⟨rfl, twins⟩
  · exact ⟨rfl, twins⟩

theorem ask (twins : Twins category named s t) (first second : List Question) :
    Twins category named (s.ask first) (t.ask second) :=
  ⟨twins.database, twins.registry, twins.config, twins.enabled, twins.attempts⟩

theorem notifyIf (twins : Twins category named s t) (changed : Bool) (name : String) :
    Twins category named (s.notifyIf changed name) (t.notifyIf changed name) := by
  cases changed
  · exact twins
  · exact ⟨twins.database, twins.registry, twins.config, twins.enabled, twins.attempts⟩

theorem requeue (twins : Twins category named s t) (p : Pending) :
    Paired category named (s.requeue p) (t.requeue p) := by
  refine ⟨?_, twins.database, twins.registry, twins.config, twins.enabled, ?_⟩
  · show (t.session.queue.requeue p.1 p.2).2 = (s.session.queue.requeue p.1 p.2).2
    rw [Queue.requeue_snd, Queue.requeue_snd]
    unfold Queue.retries
    rw [twins.attempts]
  · show (t.session.queue.requeue p.1 p.2).1.maxAttempts = (s.session.queue.requeue p.1 p.2).1.maxAttempts
    rw [Queue.maxAttempts_requeue, Queue.maxAttempts_requeue, twins.attempts]

end Twins

/-! ### Confirmations -/

/-- Candidates being settled in twin states, so far with one outcome and one list of fed patterns. -/
structure SettlingTwins (category : String) (named : String → Prop) (x y : Settling) : Prop where
  states : Twins category named x.state y.state
  outcome : y.outcome = x.outcome
  fed : y.fed = x.fed

namespace SettlingTwins

variable {x y : Settling} {ruling : Ruling}

theorem feed (twins : SettlingTwins ruling.category named x y)
    (readings : SameReadings ruling.category clock later) {pattern : String} (met : named pattern) :
    SettlingTwins ruling.category named (feed clock ruling pattern x) (feed later ruling pattern y) := by
  unfold State.feed
  rw [twins.fed, readings.feed]
  split
  · exact ⟨(twins.states.act (Database.blind_feed met _)).states, twins.outcome, rfl⟩
  · exact twins

/-- One candidate has the same fate in twin states. -/
theorem settle (twins : SettlingTwins ruling.category named x y)
    (readings : SameReadings ruling.category clock later) {p : Pending} (pattern : named p.1.pattern)
    (origin : named p.1.origin) :
    SettlingTwins ruling.category named (settle clock ruling x p) (settle later ruling y p) := by
  unfold State.settle
  split
  · have paired := twins.states.requeue p
    refine ⟨paired.states, ?_, twins.fed⟩
    show y.outcome.addFailed (y.state.requeue p).2 = x.outcome.addFailed (x.state.requeue p).2
    rw [paired.result, twins.outcome]
  · split
    · have paired := twins.states.apply
        (Database.blind_addTo (m := ⟨p.1.pattern, .hit⟩) pattern ruling.score)
      have added : SettlingTwins ruling.category named
          { x with
            state := (x.state.apply (Database.addTo _ ⟨p.1.pattern, .hit⟩ ruling.score)).1
            outcome := x.outcome.addChange
              (x.state.apply (Database.addTo _ ⟨p.1.pattern, .hit⟩ ruling.score)).2 }
          { y with
            state := (y.state.apply (Database.addTo _ ⟨p.1.pattern, .hit⟩ ruling.score)).1
            outcome := y.outcome.addChange
              (y.state.apply (Database.addTo _ ⟨p.1.pattern, .hit⟩ ruling.score)).2 } :=
        ⟨paired.states, congrArg₂ Outcome.addChange twins.outcome paired.result, twins.fed⟩
      exact added.feed readings pattern
    · have paired := twins.states.apply
        (Database.blind_addTo (m := ⟨p.1.origin, .passthrough⟩) origin ruling.score)
      refine ⟨paired.states, ?_, twins.fed⟩
      exact congrArg₂ Outcome.addChange twins.outcome paired.result

end SettlingTwins

namespace Twins

theorem requeueAll (twins : Twins category named s t) (items : List Pending) :
    Paired category named (s.requeueAll items) (t.requeueAll items) := by
  refine List.foldl_rel (r := Paired category named) ⟨rfl, twins⟩ fun p _ x y paired => ?_
  have step := paired.states.requeue p
  refine ⟨?_, step.states⟩
  exact congrArg₂ Outcome.addFailed paired.result step.result

theorem settleAll (ruling : Ruling) (twins : Twins ruling.category named s t)
    (readings : SameReadings ruling.category clock later)
    (met : ∀ p ∈ items, named p.1.pattern ∧ named p.1.origin) :
    Paired ruling.category named (s.settleAll clock ruling items) (t.settleAll later ruling items) := by
  have settled : SettlingTwins ruling.category named
      (items.foldl (settle clock ruling) ⟨s, .empty, []⟩)
      (items.foldl (settle later ruling) ⟨t, .empty, []⟩) := by
    refine List.foldl_rel (r := SettlingTwins ruling.category named) ⟨twins, rfl, rfl⟩ ?_
    exact fun p listed x y held => held.settle readings (met p listed).1 (met p listed).2
  have cut : Paired ruling.category named
      ((items.foldl (settle clock ruling) ⟨s, .empty, []⟩).state.trimSets ruling.category)
      ((items.foldl (settle later ruling) ⟨t, .empty, []⟩).state.trimSets ruling.category) := by
    unfold trimSets
    rw [settled.states.config]
    exact settled.states.apply ((Database.blind_trim _ _ _).bind fun _ => .pure _)
  exact ⟨congrArg₂ Outcome.addChange settled.outcome cut.result, cut.states⟩

theorem consult (twins : Twins category named s t)
    (agree : services.AgreeOn category (s.consult services category items).1 others) :
    t.consult others category items = s.consult services category items := by
  rw [consult_eq twins.registry]
  exact Confirm.confirm_congr agree

/-- **A confirmation of the category has one outcome in twin states.** -/
theorem confirmCategory (twins : Twins category named s t)
    (agree : services.AgreeOn category (s.consult services category items).1 others)
    (readings : SameReadings category clock later)
    (met : ∀ p ∈ items, named p.1.pattern ∧ named p.1.origin) :
    Paired category named (s.confirmCategory services clock category items)
      (t.confirmCategory others later category items) := by
  have same := twins.consult agree
  cases recorded : (s.registry.strategy category).updateConfirmSet with
  | false =>
    rw [confirmCategory_ignored recorded, confirmCategory_ignored (twins.registry ▸ recorded)]
    exact ⟨rfl, twins⟩
  | true =>
    have other : (t.registry.strategy category).updateConfirmSet = true := twins.registry ▸ recorded
    cases answer : (s.consult services category items).2 with
    | error cause =>
      rw [confirmCategory_failed recorded answer, confirmCategory_failed other (same ▸ answer)]
      exact (twins.ask _ _).requeueAll items
    | ok confirmation =>
      have ruling : t.ruling later category confirmation = s.ruling clock category confirmation := by
        unfold State.ruling State.source
        rw [twins.registry, readings.confirmation]
      rw [confirmCategory_answered recorded answer, confirmCategory_answered other (same ▸ answer), ruling]
      exact settleAll (s.ruling clock category confirmation) (twins.ask _ _) readings met

end Twins

/-! ### Refreshes, with their results -/

/-- A report is about the category that was refreshed. -/
theorem category_of_report {around : Surroundings} {report : RefreshReport}
    (reported : (s.refresh around category).2 = .ok (some report)) : report.category = category := by
  cases s.ending around category with
  | idle _ ends | unread _ _ ends | empty _ _ _ ends | stopped _ _ ends | failed _ _ _ ends
  | answered _ _ _ ends =>
    rw [ends] at reported
    cases reported <;> rfl

/-! ### Refreshes in twin states -/

/-- What a refresh of a category asks: the local filter about each of its members, then its source about
those that are still listed. -/
def refreshQuestions (s : State) (services : Services) (category : String) : List Question :=
  ((s.kept category).map fun m => .filter (Refresh.request category m.domain)) ++
    (Confirm.confirm services category (s.source category) (s.registry.style category)
      (((s.kept category).filter (Refresh.listed services category)).map (·.domain))).1

namespace Twins

theorem kept (twins : Twins category named s t) : t.kept category = s.kept category := by
  unfold State.kept
  rw [twins.database.sets.pair, twins.registry]

theorem memberCount (twins : Twins category named s t) :
    t.memberCount category = s.memberCount category := by
  unfold State.memberCount
  rw [twins.database.sets.pair]

theorem excludedHits (twins : Twins category named s t) :
    t.excludedHits category = s.excludedHits category := by
  unfold State.excludedHits
  rw [twins.database.sets.pair, twins.registry]

theorem moveExcluded (twins : Twins category named s t) (score : Score) (names : List String)
    (met : ∀ name ∈ names, named name) :
    Paired category named (s.moveExcluded (setKeys category) score names)
      (t.moveExcluded (setKeys category) score names) := by
  refine List.foldl_rel (r := Paired category named) ⟨rfl, twins⟩ fun name listed x y paired => ?_
  have step := paired.states.apply
    (Database.blind_addTo (m := ⟨name, .passthrough⟩) (met name listed) score)
  exact ⟨congrArg₂ or paired.result step.result, step.states⟩

theorem removeMembers (twins : Twins category named s t) (members : List Member) :
    Paired category named (s.removeMembers (setKeys category) members)
      (t.removeMembers (setKeys category) members) := by
  refine List.foldl_rel (r := Paired category named) ⟨rfl, twins⟩ fun m _ x y paired => ?_
  have step := paired.states.apply (Database.blind_removeFrom m)
  exact ⟨congrArg₂ or paired.result step.result, step.states⟩

/-- The excluded hits of twins are moved alike. -/
theorem migration (twins : Twins category named s t) (readings : SameReadings category clock later) :
    Twins category named (s.migrated clock category) (t.migrated later category) ∧
      t.begun later category = s.begun clock category := by
  have moved := twins.moveExcluded (clock (.refresh category)) (s.excludedHits category)
    fun name listed => twins.database.inside .hit name
      (SortedSet.contains_iff.mpr (List.mem_filter.mp listed).1)
  unfold migrated begun
  rw [twins.excludedHits, twins.kept, twins.memberCount, twins.registry, readings.refresh]
  refine ⟨moved.states, ?_⟩
  rw [moved.result]

theorem concludeRefresh {r : Refresh} (twins : Twins r.category named s t)
    (agree : services.AgreeOn r.category
      (consultMembers services (s.registry.style r.category) r).1 others) :
    Paired r.category named (s.concludeRefresh services r) (t.concludeRefresh others r) := by
  have same : consultMembers others (t.registry.style r.category) r =
      consultMembers services (s.registry.style r.category) r := by
    rw [twins.registry]
    exact Confirm.confirm_congr agree
  cases answer : (consultMembers services (s.registry.style r.category) r).2 with
  | error cause =>
    rw [concludeRefresh_failed answer, concludeRefresh_failed (same ▸ answer)]
    exact ⟨rfl, (twins.ask _ _).notifyIf _ _⟩
  | ok confirmation =>
    have unlisted := (twins.ask (consultMembers services (s.registry.style r.category) r).1
      (consultMembers others (t.registry.style r.category) r).1).removeMembers r.unmatched
    have refuted := unlisted.states.removeMembers (r.removals confirmation)
    rw [concludeRefresh_answered answer, concludeRefresh_answered (same ▸ answer), unlisted.result, refuted.result]
    exact ⟨rfl, refuted.states.notifyIf _ _⟩

/-- Members are swept alike by services that agree about them. -/
theorem swept {r : Refresh}
    (same : ∀ m ∈ r.remaining, others.checkFilter (Refresh.request r.category m.domain) =
      services.checkFilter (Refresh.request r.category m.domain)) :
    r.swept others = r.swept services := by
  have listed : ∀ m ∈ r.remaining, Refresh.listed others r.category m =
      Refresh.listed services r.category m := by
    intro m there
    unfold Refresh.listed
    rw [same m there]
  unfold Refresh.swept
  rw [List.filter_congr listed, List.filter_congr fun m there => congrArg not (listed m there)]

/-- The end of a refresh that has begun in twin states. -/
theorem conclusion {around other : Surroundings} (twins : Twins category named s t)
    (agree : around.services.AgreeOn category (s.refreshQuestions around.services category) other.services)
    (readings : SameReadings category around.clock other.clock) :
    let begun := s.begun around.clock category
    Paired category named
      (((s.migrated around.clock category).ask begun.questions).concludeRefresh around.services
        (begun.swept around.services))
      (((t.migrated other.clock category).ask begun.questions).concludeRefresh other.services
        (begun.swept other.services)) := by
  intro begun
  have same : begun.swept other.services = begun.swept around.services :=
    swept fun m listed => agree.filter _ (List.mem_append_left _ (List.mem_map_of_mem listed))
  let migrated := (s.migrated around.clock category).ask begun.questions
  have style : migrated.registry = s.registry := (migrated_reaches s around.clock category).registry
  have source : around.services.AgreeOn category (consultMembers around.services
      (migrated.registry.style category) (begun.swept around.services)).1 other.services := by
    rw [style]
    exact agree.subset (List.subset_append_right _ _)
  rw [same]
  exact concludeRefresh (r := begun.swept around.services)
    ((twins.migration readings).1.ask begun.questions begun.questions) source

/-- **A refresh of the category without shutdown has one result in twin states.** -/
theorem refresh {around other : Surroundings} (twins : Twins category named s t)
    (quiet : ∀ point, around.stopped point = false) (still : ∀ point, other.stopped point = false)
    (agree : around.services.AgreeOn category (s.refreshQuestions around.services category) other.services)
    (readings : SameReadings category around.clock other.clock) :
    Paired category named (s.refresh around category) (t.refresh other category) := by
  by_cases going : s.Refreshable around category
  · have there : t.Refreshable other category :=
      ⟨twins.enabled.trans going.enabled, still _, twins.registry ▸ going.recorded⟩
    by_cases present : s.database.sets.isSome = true
    · have held : t.database.sets.isSome = true := twins.database.present.trans present
      by_cases none : s.memberCount category = 0
      · have empty : t.memberCount category = 0 := twins.memberCount.trans none
        rw [refresh_eq_start going present none, refresh_eq_start there held empty]
        exact ⟨rfl, twins⟩
      · have concluded := twins.conclusion agree readings
        have begins : s.Begins around category := ⟨going, present, none⟩
        have begun : t.Begins other category := ⟨there, held, twins.memberCount ▸ none⟩
        rw [refresh_unstopped begins fun _ _ => quiet _, refresh_unstopped begun fun _ _ => still _,
          (twins.migration readings).2]
        exact ⟨congrArg (Except.map Option.some) concluded.result, concluded.states⟩
    · have lacking : ¬ t.database.sets.isSome = true := by rwa [twins.database.present]
      rw [refresh_eq_error going present, refresh_eq_error there lacking]
      exact ⟨rfl, twins⟩
  · have idle : ¬ t.Refreshable other category := fun there =>
      going ⟨twins.enabled.symm.trans there.enabled, quiet _, twins.registry ▸ there.recorded⟩
    rw [refresh_eq_none going, refresh_eq_none idle]
    exact ⟨rfl, twins⟩

end Twins

end State

end CategoryFilter
