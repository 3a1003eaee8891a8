/-
**A refresh without a report.**

A refresh may be given up at any of the members that it checks, and its source may fail after the last
one. By then the excluded hits are passthroughs, and no other member was touched:

* `database_unfinished`: a refresh that ends without a report leaves the excluded hits moved, and that is
  all.
* `refresh_congr`: a refresh depends on its services by the answers of the local filter and by one
  consultation of the source.
* `asked_of_error`, `asked_of_stop`: what was asked when the source failed, or when shutdown was seen.
* `unfinished_refresh`: what a refresh without a report leaves, and what it has asked.
-/

import CategoryFilter.Proofs.Examiner.Waiting
import CategoryFilter.Proofs.Reconciliation

namespace CategoryFilter

open Category (sideKey)

/-- A source that fails was asked one question at most: the one that looks up each key by itself does not
fail as a whole. -/
theorem Confirm.length_asked_le {services : Services} {category : String} {source : Source} {style : Style}
    {keys : List String} {cause : Failure}
    (failure : (confirm services category source style keys).2 = .error cause) :
    (confirm services category source style keys).1.length ≤ 1 := by
  unfold confirm at failure ⊢
  split
  · exact Nat.zero_le 1
  · next some =>
    rw [if_neg some] at failure
    cases source with
    | trusted | file => exact Nat.zero_le 1
    | intel => cases failure
    | cloud =>
      dsimp only
      rw [byHashSet_asked (mt List.isEmpty_iff.mpr some)]
      exact Nat.le_refl 1

namespace State

variable {s t : State} {around : Surroundings} {services : Services} {category : String} {cause : Failure}

/-! ### The services -/

/-- A refresh that is stopped at a member uses no answer at all. -/
theorem refresh_stopped_congr (begins : s.Begins around category)
    (stop : ∃ m ∈ s.kept category, around.stopped (.member category m.domain) = true)
    (services : Services) :
    s.refresh { around with services := services } category = s.refresh around category := by
  have begun : s.Begins { around with services := services } category :=
    ⟨⟨begins.going.enabled, begins.going.running, begins.going.recorded⟩, begins.present, begins.members⟩
  exact (refresh_stopped begun stop).trans (refresh_stopped begins stop).symm

/-- The end of a refresh depends on its services by one consultation. -/
theorem concludeRefresh_congr {r : Refresh} {other : Services}
    (agree : consultMembers other (s.registry.style r.category) r =
      consultMembers services (s.registry.style r.category) r) :
    s.concludeRefresh other r = s.concludeRefresh services r := by
  unfold concludeRefresh
  dsimp only
  rw [show Confirm.confirm other r.category _ _ _ = _ from agree]
  rfl

/-- **A refresh depends on its services by the answers of the local filter and by one consultation.** -/
theorem refresh_congr (same : services.checkFilter = around.services.checkFilter)
    (agree : s.consultation services category = s.consultation around.services category) :
    s.refresh { around with services := services } category = s.refresh around category := by
  let other : Surroundings := { around with services := services }
  have entered (going : s.Refreshable around category) : s.Refreshable other category :=
    ⟨going.enabled, going.running, going.recorded⟩
  have swept : (s.begun around.clock category).swept services =
      (s.begun around.clock category).swept around.services := by
    unfold Refresh.swept Refresh.listed
    rw [same]
  cases s.ending around category with
  | idle idle ends =>
    have idle : ¬ s.Refreshable other category := fun going =>
      idle ⟨going.enabled, going.running, going.recorded⟩
    exact (refresh_eq_none idle).trans ends.symm
  | unread going missing ends => exact (refresh_eq_error (entered going) missing).trans ends.symm
  | empty going present none ends =>
    exact (refresh_eq_start (entered going) present none).trans ends.symm
  | stopped begins stop _ => exact refresh_stopped_congr begins stop services
  | failed begins through _ _ | answered begins through _ _ =>
    have begun : s.Begins other category := ⟨entered begins.going, begins.present, begins.members⟩
    let checked := (s.migrated around.clock category).ask (s.begun around.clock category).questions
    have registry : checked.registry = s.registry := (migrated_reaches s around.clock category).registry
    have concluded : checked.concludeRefresh services
          ((s.begun around.clock category).swept around.services) =
        checked.concludeRefresh around.services
          ((s.begun around.clock category).swept around.services) := by
      refine concludeRefresh_congr ?_
      rw [registry]
      unfold consultation Refresh.listed at agree
      rw [same] at agree
      exact agree
    rw [refresh_unstopped begun through, refresh_unstopped begins through]
    show ((checked.concludeRefresh services (Refresh.swept _ services)).1, _) = _
    rw [swept, concluded]

/-! ### What is left -/

/-- The excluded hits are passthroughs, with the score of the refresh, and nothing else has changed but
what was asked and the notices. -/
structure Moved (s : State) (around : Surroundings) (category : String) (t : State) : Prop where
  hits : ∀ name, (t.database.pair category .hit).score? name =
    if (s.registry.exclusions category).covers name = true then none
    else (s.database.pair category .hit).score? name
  passthroughs : ∀ name, (t.database.pair category .passthrough).score? name =
    if (s.database.pair category .hit).contains name = true ∧
        (s.registry.exclusions category).covers name = true then
      some (around.clock (.refresh category))
    else (s.database.pair category .passthrough).score? name
  others : ∀ key, (∀ side, key ≠ sideKey category side) → t.database.setAt key = s.database.setAt key
  registry : t.registry = s.registry
  config : t.config = s.config
  session : t.session = s.session

/-- **A refresh that ends without a report has moved the excluded hits**, and has not written otherwise. -/
theorem database_unfinished (going : s.Refreshable around category)
    (unfinished : ∀ report, (s.refresh around category).2 ≠ .ok (some report)) :
    (s.refresh around category).1.database = (s.migrated around.clock category).database := by
  cases s.ending around category with
  | idle idle _ => exact absurd going idle
  | unread _ missing ends => rw [ends, migrated_nothing (Or.inl missing)]
  | stopped _ _ ends | failed _ _ _ ends =>
    rw [ends, database_notifyIf]
    rfl
  | empty _ _ _ ends | answered _ _ _ ends => exact absurd (congrArg Prod.snd ends) (unfinished _)

theorem moved_unfinished (accepted : ∀ name ∈ s.excludedHits category, s.database.Accepts name)
    (going : s.Refreshable around category)
    (unfinished : ∀ report, (s.refresh around category).2 ≠ .ok (some report)) :
    s.Moved around category (s.refresh around category).1 := by
  have database := database_unfinished going unfinished
  have reached := refresh_reaches_all s around category
  refine ⟨fun name => ?_, fun name => ?_, fun key foreign => ?_, reached.registry, reached.config,
    session_refresh s around category⟩
  · rw [database, score?_migrated accepted]
    cases covered : (s.registry.exclusions category).covers name with
    | false =>
      have unmoved : name ∉ s.excludedHits category := fun moved =>
        Bool.false_ne_true (covered.symm.trans (SetPair.mem_excluded.mp moved).2)
      rw [if_neg unmoved, if_neg Bool.false_ne_true]
    | true =>
      rw [if_pos rfl]
      split
      · rfl
      · next unmoved =>
        -- An excluded name that is not moved was no hit.
        rw [← Option.not_isSome_iff_eq_none]
        exact fun hit => unmoved (SetPair.mem_excluded.mpr ⟨hit, covered⟩)
  · rw [database, score?_migrated accepted]
    exact if_congr SetPair.mem_excluded rfl rfl
  · rw [database]
    refine (migrated_reaches s around.clock category).trail.preserves
      (P := fun db => db.setAt key = s.database.setAt key) ?_ rfl
    rintro db _ ⟨-⟩ held
    exact (Database.setAt_record _ _ foreign).trans held

/-! ### What was asked -/

/-- A refresh that fails has checked all members, and its source was asked one question at most. -/
theorem asked_of_error (failed : (s.refresh around category).2 = .error cause) :
    (s.database.sets.isSome = true → (s.consultation around.services category).2 = .error cause) ∧
      (s.refresh around category).1.asked = s.asked ++ s.refreshQuestions around.services category ∧
      (s.consultation around.services category).1.length ≤ 1 := by
  cases s.ending around category with
  | idle _ ends | empty _ _ _ ends | stopped _ _ ends | answered _ _ _ ends =>
    rw [ends] at failed
    cases failed
  | unread _ missing ends =>
    have kept := kept_of_no_members (memberCount_missing missing category)
    refine ⟨fun present => absurd present missing, ?_, ?_⟩
    · rw [ends, refreshQuestions, kept]
      exact (List.append_nil _).symm
    · rw [consultation, kept]
      exact Nat.zero_le 1
  | failed _ _ failure ends =>
    rw [ends] at failed
    cases failed
    refine ⟨fun _ => failure, ?_, Confirm.length_asked_le failure⟩
    rw [ends, asked_notifyIf]
    exact congrArg (· ++ _) (asked_migrated s around.clock category)

/-- A refresh that is given up has checked the members before the stop, whatever the services would
answer. -/
theorem asked_of_stop (going : s.Refreshable around category)
    (stopped : (s.refresh around category).2 = .ok none) :
    (∃ m ∈ s.kept category, around.stopped (.member category m.domain) = true) ∧
      (s.refresh around category).1.asked = s.asked ++
        (((s.kept category).takeWhile fun m => !around.stopped (.member category m.domain)).map
          fun m => .filter (Refresh.request category m.domain)) ∧
      ∀ services, s.refresh { around with services := services } category = s.refresh around category := by
  cases s.ending around category with
  | idle idle _ => exact absurd going idle
  | unread _ _ ends | empty _ _ _ ends | failed _ _ _ ends | answered _ _ _ ends =>
    rw [ends] at stopped
    cases stopped
  | stopped begins stop ends =>
    refine ⟨stop, ?_, refresh_stopped_congr begins stop⟩
    rw [ends, asked_notifyIf]
    exact congrArg (· ++ _) (asked_migrated s around.clock category)

/-- **A refresh without a report.** If it fails, or is stopped at a member, the excluded hits are
passthroughs and all other scores are as they were. A failure is that of the source, which was asked
one question at most after all members were checked; a stop comes after the checks of the members
before it, and before the source was asked. A refresh that is not to be done leaves the state as it is,
whatever the services would answer. -/
theorem unfinished_refresh (accepted : ∀ name ∈ s.excludedHits category, s.database.Accepts name) :
    (∀ cause, (s.refresh around category).2 = .error cause →
      s.Moved around category (s.refresh around category).1 ∧
      (s.database.sets.isSome = true → (s.consultation around.services category).2 = .error cause) ∧
      (s.refresh around category).1.asked = s.asked ++ s.refreshQuestions around.services category ∧
      (s.consultation around.services category).1.length ≤ 1) ∧
    ((s.refresh around category).2 = .ok none → s.Refreshable around category →
      s.Moved around category (s.refresh around category).1 ∧
      (∃ m ∈ s.kept category, around.stopped (.member category m.domain) = true) ∧
      (s.refresh around category).1.asked = s.asked ++
        (((s.kept category).takeWhile fun m => !around.stopped (.member category m.domain)).map
          fun m => .filter (Refresh.request category m.domain)) ∧
      ∀ services, s.refresh { around with services := services } category = s.refresh around category) ∧
    (¬ s.Refreshable around category →
      ∀ services, s.refresh { around with services := services } category = (s, .ok none)) ∧
    ∀ services, services.checkFilter = around.services.checkFilter →
      s.consultation services category = s.consultation around.services category →
      s.refresh { around with services := services } category = s.refresh around category := by
  refine ⟨fun cause failed => ⟨?_, asked_of_error failed⟩,
    fun stopped going => ⟨?_, asked_of_stop going stopped⟩, fun idle services => ?_,
    fun services same agree => refresh_congr same agree⟩
  · have going : s.Refreshable around category := refreshable_of_ne (by simp [failed])
    exact moved_unfinished accepted going (by simp [failed])
  · exact moved_unfinished accepted going (by simp [stopped])
  · exact refresh_eq_none fun going => idle ⟨going.enabled, going.running, going.recorded⟩

/-- A category with an excluded hit, two other hits and a passthrough. -/
def fourMembers : State :=
  { threeHits with
    database := threeHits.database.replace (Category.passthroughKey "av")
      (SortedSet.empty.insert "d.com" 4) }

/-- Surroundings in which one of the hits is no longer listed, and there is no list file. -/
def missingList (stopped : Checkpoint → Bool) : Surroundings where
  services := { (oneWildcard "").services with
    checkFilter := fun request =>
      if request.domain = "c.com" then .ok ⟨[]⟩ else (oneWildcard "").services.checkFilter request
    listFile := fun _ => .error .notFound }
  clock _ := 1
  instant := 0
  stopped := stopped

/-- The list file cannot be read after all members were checked, or shutdown is asked for at the last of
them: in both cases the hit that is no longer listed stays. -/
theorem unfinished_refresh_fourMembers :
    let failing := missingList fun _ => false
    let stopped := missingList fun point => point = .member "av" "d.com"
    (∀ name ∈ fourMembers.excludedHits "av", fourMembers.database.Accepts name) ∧
      fourMembers.excludedHits "av" = ["x.a.com"] ∧
      (fourMembers.refresh failing "av").2 = .error (.io .notFound) ∧
      fourMembers.Moved failing "av" (fourMembers.refresh failing "av").1 ∧
      (fourMembers.refresh stopped "av").2 = .ok none ∧
      fourMembers.Moved stopped "av" (fourMembers.refresh stopped "av").1 ∧
      ((fourMembers.refresh stopped "av").1.database.pair "av" .hit).score? "c.com" = some 3 := by
  intro failing stopped
  have healthy : fourMembers.database.Healthy := ⟨rfl, rfl⟩
  have accepted : ∀ name ∈ fourMembers.excludedHits "av", fourMembers.database.Accepts name :=
    fun name _ => healthy.accepts name
  have failed : (fourMembers.refresh failing "av").2 = .error (.io .notFound) := by decide +kernel
  have given_up : (fourMembers.refresh stopped "av").2 = .ok none := by decide +kernel
  have going : fourMembers.Refreshable stopped "av" := by
    constructor <;> decide +kernel
  exact ⟨accepted, by decide +kernel, failed, ((unfinished_refresh accepted).1 _ failed).1, given_up,
    ((unfinished_refresh accepted).2.1 given_up going).1, by decide +kernel⟩

end State

end CategoryFilter
