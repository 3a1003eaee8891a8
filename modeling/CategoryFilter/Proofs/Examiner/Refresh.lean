/-
**What a refresh does to the sets of its category.**

* `migrated`: its excluded hits become passthroughs.
* `refresh_reaches`: from there on, names that are not excluded leave their sets (`Removes`), and nothing
  else happens, on every way out.
-/

import CategoryFilter.Examiner.Refresh
import CategoryFilter.Proofs.Examiner.Reaches

namespace CategoryFilter.State

open Database (Trail execute)
open Category (setKeys)

variable {s : State}

/-- An excluded name becomes a passthrough. -/
inductive Moves (registry : Registry) (category : String) (db : Database) : Write → Prop
  | intro {name : String} {score : Score}
      (excluded : (registry.exclusions category).covers name = true) :
      Moves registry category db (.record category ⟨name, .passthrough⟩ score)

/-- A name that is not excluded leaves its set. -/
inductive Removes (registry : Registry) (category : String) (db : Database) : Write → Prop
  | intro {m : Member} (kept : (registry.exclusions category).covers m.domain = false) :
      Removes registry category db (.remove category m)

/-- A write of the refresh of a category. -/
def Refreshes (registry : Registry) (category : String) (db : Database) (w : Write) : Prop :=
  Moves registry category db w ∨ Removes registry category db w

theorem moveExcluded_reaches {registry : Registry} {category : String} (s : State) (score : Score)
    (names : List String)
    (excluded : ∀ name ∈ names, (registry.exclusions category).covers name = true) :
    Reaches (Moves registry category) s (s.moveExcluded (setKeys category) score names).1 :=
  foldl_reaches Prod.fst _ names (s, false) fun at_ name listed _ =>
    apply_reaches (Database.trail_addTo at_.1.database category ⟨name, .passthrough⟩ score
      (Moves.intro (excluded name listed)))

theorem removeMembers_reaches (s : State) (category : String) (members : List Member) :
    Reaches (fun _ w => ∃ m ∈ members, w = .remove category m) s
      (s.removeMembers (setKeys category) members).1 :=
  foldl_reaches Prod.fst _ members (s, false) fun at_ m listed _ =>
    apply_reaches (Database.trail_removeFrom at_.1.database category m ⟨m, listed, rfl⟩)

/-- A refresh that concerns no excluded name. -/
structure Clean (x : Exclusions) (r : Refresh) : Prop where
  remaining : ∀ m ∈ r.remaining, x.covers m.domain = false
  unmatched : ∀ m ∈ r.unmatched, x.covers m.domain = false
  escalated : ∀ m ∈ r.escalated, x.covers m.domain = false

theorem Clean.note {x : Exclusions} {r : Refresh} (clean : Clean x r)
    (answer : Except Failure FilterResponse) : Clean x (r.note answer) := by
  unfold Refresh.note
  split
  · exact clean
  · next m rest waiting =>
    have first : x.covers m.domain = false := clean.remaining m (waiting ▸ List.mem_cons_self)
    have later : ∀ other ∈ rest, x.covers other.domain = false := fun other listed =>
      clean.remaining other (waiting ▸ List.mem_cons_of_mem _ listed)
    split
    · refine ⟨later, clean.unmatched, fun other listed => ?_⟩
      rcases List.mem_append.mp listed with old | new
      · exact clean.escalated other old
      · rwa [List.mem_singleton.mp new]
    · refine ⟨later, fun other listed => ?_, clean.escalated⟩
      rcases List.mem_append.mp listed with old | new
      · exact clean.unmatched other old
      · rwa [List.mem_singleton.mp new]

theorem note_category (r : Refresh) (answer : Except Failure FilterResponse) :
    (r.note answer).category = r.category := by
  unfold Refresh.note
  split
  · rfl
  · split <;> rfl

/-- What the source of a refresh is asked, and its answer. -/
def consultMembers (services : Services) (style : Style) (r : Refresh) :
    List Question × Except Failure Confirmation :=
  Confirm.confirm services r.category (.select r.strategy style) style (r.escalated.map (·.domain))

theorem concludeRefresh_failed {services : Services} {r : Refresh} {cause : Failure}
    (failed : (consultMembers services (s.registry.style r.category) r).2 = .error cause) :
    s.concludeRefresh services r =
      ((s.ask (consultMembers services (s.registry.style r.category) r).1).notifyIf r.changed r.category,
        .error cause) := by
  unfold concludeRefresh
  dsimp only
  rw [show (Confirm.confirm services r.category _ _ _).2 = _ from failed]
  rfl

/-- The report of a refresh that ends with an answer of the source. -/
def concludedReport (r : Refresh) (confirmation : Confirmation) (changed : Bool) : RefreshReport :=
  { r.report with
    unmatched := r.unmatched.length
    escalated := r.escalated.length
    removedHits := ((r.removals confirmation).filter fun m => m.side = .hit).length
    removedPassthrough := ((r.removals confirmation).filter fun m => m.side = .passthrough).length
    changed := changed }

/-- An answer of the source removes the members that are no longer listed, then those that it
contradicts. -/
theorem concludeRefresh_answered {services : Services} {r : Refresh} {confirmation : Confirmation}
    (answered : (consultMembers services (s.registry.style r.category) r).2 = .ok confirmation) :
    let asked := s.ask (consultMembers services (s.registry.style r.category) r).1
    let unlisted := asked.removeMembers (setKeys r.category) r.unmatched
    let refuted := unlisted.1.removeMembers (setKeys r.category) (r.removals confirmation)
    let changed := r.changed || unlisted.2 || refuted.2
    s.concludeRefresh services r =
      (refuted.1.notifyIf changed r.category, .ok (concludedReport r confirmation changed)) := by
  intro asked unlisted refuted changed
  unfold concludeRefresh
  dsimp only
  rw [show (Confirm.confirm services r.category _ _ _).2 = _ from answered]
  rfl

theorem concludeRefresh_reaches {registry : Registry} {r : Refresh} (s : State) (services : Services)
    (clean : Clean (registry.exclusions r.category) r) :
    Reaches (Removes registry r.category) s (s.concludeRefresh services r).1 := by
  cases answer : (consultMembers services (s.registry.style r.category) r).2 with
  | error cause =>
    rw [concludeRefresh_failed answer]
    exact (ask_reaches s _).trans (notifyIf_reaches _ _ _)
  | ok confirmation =>
    let asked := s.ask (consultMembers services (s.registry.style r.category) r).1
    let first := (asked.removeMembers (setKeys r.category) r.unmatched).1
    have unlisted := removeMembers_reaches asked r.category r.unmatched
    have refuted := removeMembers_reaches first r.category (r.removals confirmation)
    rw [concludeRefresh_answered answer]
    refine (ask_reaches s _).trans ((unlisted.mono ?_).trans ((refuted.mono ?_).trans
      (notifyIf_reaches _ _ _)))
    · rintro db _ ⟨m, listed, rfl⟩
      exact .intro (clean.unmatched m listed)
    · rintro db _ ⟨m, listed, rfl⟩
      exact .intro (clean.escalated m (List.mem_filter.mp listed).1)

theorem checkMembers_done {r : Refresh} (none : r.remaining = []) (around : Surroundings)
    (fuel : Nat) (s : State) :
    checkMembers around fuel s r =
      ((s.concludeRefresh around.services r).1, (s.concludeRefresh around.services r).2.map some) := by
  unfold checkMembers
  rw [none]
  cases fuel <;> rfl

theorem checkMembers_next {r : Refresh} {m : Member} {rest : List Member}
    (waiting : r.remaining = m :: rest) (around : Surroundings) (fuel : Nat) (s : State) :
    checkMembers around (fuel + 1) s r =
      if around.stopped (.member r.category m.domain) then (s.abandonRefresh r, .ok none)
      else
        checkMembers around fuel (s.ask [.filter (Refresh.request r.category m.domain)])
          (r.note (around.services.checkFilter (Refresh.request r.category m.domain))) := by
  conv_lhs => unfold checkMembers
  rw [waiting]

theorem checkMembers_reaches {registry : Registry} (around : Surroundings) (fuel : Nat) :
    ∀ (s : State) (r : Refresh), Clean (registry.exclusions r.category) r →
      Reaches (Removes registry r.category) s (checkMembers around fuel s r).1 := by
  induction fuel with
  | zero => exact fun s r clean => concludeRefresh_reaches s around.services clean
  | succ fuel ih =>
    intro s r clean
    rcases waiting : r.remaining with _ | ⟨m, rest⟩
    · rw [checkMembers_done waiting]
      exact concludeRefresh_reaches s around.services clean
    · rw [checkMembers_next waiting]
      split
      · exact notifyIf_reaches _ _ _
      · let request := Refresh.request r.category m.domain
        let noted := r.note (around.services.checkFilter request)
        have same : noted.category = r.category := note_category r _
        have checked := ih (s.ask [.filter request]) noted (same.symm ▸ clean.note _)
        rw [same] at checked
        exact (ask_reaches s [.filter request]).trans checked

/-- Whether a refresh of a category loads its sets. -/
structure Refreshable (s : State) (around : Surroundings) (category : String) : Prop where
  enabled : s.session.enabled = true
  running : around.stopped (.settling category) = false
  recorded : (s.registry.strategy category).updateConfirmSet = true

/-- The excluded hits of a category. -/
def excludedHits (s : State) (category : String) : List String :=
  (s.database.pair category).excluded (s.registry.exclusions category)

/-- The state after the excluded hits of a category became passthroughs. -/
def migrated (s : State) (clock : Clock) (category : String) : State :=
  (s.moveExcluded (setKeys category) (clock (.refresh category)) (s.excludedHits category)).1

theorem migrated_reaches (s : State) (clock : Clock) (category : String) :
    Reaches (Moves s.registry category) s (s.migrated clock category) :=
  moveExcluded_reaches s _ _ fun _ listed => (List.mem_filter.mp listed).2

theorem execute_loadSets {db : Database} (present : db.sets.isSome = true) (category : String) :
    execute (loadSets (setKeys category)) db =
      (.ok ((db.pair category .hit).members, (db.pair category .passthrough).members), db) := by
  unfold loadSets Classification.hits Classification.passthroughs
  rw [Database.execute_bind_ok (Database.execute_members present),
    Database.execute_bind_ok (Database.execute_members present)]
  rfl

theorem act_loadSets {category : String} (present : s.database.sets.isSome = true) :
    s.act (loadSets (setKeys category)) =
      (s, .ok ((s.database.pair category .hit).members,
        (s.database.pair category .passthrough).members)) := by
  refine Prod.ext ?_ ?_
  · rw [act_fst, execute_loadSets present]
  · rw [act_snd, execute_loadSets present]

theorem act_loadSets_missing {category : String} (missing : ¬ s.database.sets.isSome = true) :
    s.act (loadSets (setKeys category)) = (s, .error .database) := by
  have unread : execute (loadSets (setKeys category)) s.database = (.error .database, s.database) :=
    Database.execute_bind_error
      (Database.execute_bind_error (Database.execute_readSets_missing missing))
  refine Prod.ext ?_ ?_
  · rw [act_fst, unread]
  · rw [act_snd, unread]

/-- The members of a category, counted over both sets. -/
def memberCount (s : State) (category : String) : Nat :=
  (s.database.pair category .hit).members.length +
    (s.database.pair category .passthrough).members.length

/-- The members of a category that are not excluded, in the order in which they are checked. -/
def kept (s : State) (category : String) : List Member :=
  ((s.database.pair category .hit).members.filter
    fun name => !(s.registry.exclusions category).covers name).map (⟨·, .hit⟩) ++
  ((s.database.pair category .passthrough).members.filter
    fun name => !(s.registry.exclusions category).covers name).map (⟨·, .passthrough⟩)

/-- The refresh of a category after its excluded hits were moved. -/
def begun (s : State) (clock : Clock) (category : String) : Refresh where
  category := category
  strategy := s.registry.strategy category
  report :=
    { RefreshReport.start category (s.memberCount category) with
      excluded := (s.excludedHits category).length }
  changed := (s.moveExcluded (setKeys category) (clock (.refresh category))
    (s.excludedHits category)).2
  remaining := s.kept category
  unmatched := []
  escalated := []

theorem beginRefresh_eq {category : String} (present : s.database.sets.isSome = true)
    (recorded : (s.registry.strategy category).updateConfirmSet = true) (clock : Clock) :
    s.beginRefresh clock category =
      if s.memberCount category = 0 then
        (s, .ok (.finished (.start category (s.memberCount category))))
      else (s.migrated clock category, .ok (.running (s.begun clock category))) := by
  unfold beginRefresh
  simp only [recorded, act_loadSets present, Bool.not_true, Bool.false_eq_true, if_false,
    List.partition_eq_filter_filter]
  rfl

theorem beginRefresh_missing {category : String} (missing : ¬ s.database.sets.isSome = true)
    (recorded : (s.registry.strategy category).updateConfirmSet = true) (clock : Clock) :
    s.beginRefresh clock category = (s, .error (.storage .database)) := by
  unfold beginRefresh
  simp only [recorded, act_loadSets_missing missing, Bool.not_true, Bool.false_eq_true, if_false]

theorem beginRefresh_ignored {category : String}
    (ignored : (s.registry.strategy category).updateConfirmSet = false) (clock : Clock) :
    s.beginRefresh clock category = (s, .ok .skipped) := by
  unfold beginRefresh
  simp only [ignored, Bool.not_false, if_true]

theorem begun_clean (s : State) (clock : Clock) (category : String) :
    Clean (s.registry.exclusions category) (s.begun clock category) := by
  refine ⟨fun m listed => ?_, fun m listed => absurd listed List.not_mem_nil,
    fun m listed => absurd listed List.not_mem_nil⟩
  rcases List.mem_append.mp listed with hit | passthrough
  · obtain ⟨name, kept, rfl⟩ := List.mem_map.mp hit
    simpa using (List.mem_filter.mp kept).2
  · obtain ⟨name, kept, rfl⟩ := List.mem_map.mp passthrough
    simpa using (List.mem_filter.mp kept).2

/-! ### The whole refresh -/

theorem refresh_eq_none {around : Surroundings} {category : String}
    (idle : ¬ s.Refreshable around category) : s.refresh around category = (s, .ok none) := by
  unfold refresh
  split
  · rfl
  · next going =>
    have going : s.session.enabled = true ∧ around.stopped (.settling category) = false := by
      simpa using going
    have ignored : (s.registry.strategy category).updateConfirmSet = false :=
      Bool.eq_false_iff.mpr fun recorded => idle ⟨going.1, going.2, recorded⟩
    rw [beginRefresh_ignored ignored]

theorem refresh_idle {around : Surroundings} {category : String}
    (idle : ¬ s.Refreshable around category) : (s.refresh around category).1 = s := by
  rw [refresh_eq_none idle]

theorem refreshable_of_ne {around : Surroundings} {category : String}
    (done : (s.refresh around category).2 ≠ .ok none) : s.Refreshable around category := by
  by_contra idle
  exact done (congrArg Prod.snd (refresh_eq_none idle))

theorem refresh_entered {around : Surroundings} {category : String}
    (going : s.Refreshable around category) :
    s.refresh around category =
      match s.beginRefresh around.clock category with
      | (t, .error cause) => (t, .error cause)
      | (t, .ok .skipped) => (t, .ok none)
      | (t, .ok (.finished report)) => (t, .ok (some report))
      | (t, .ok (.running r)) => checkMembers around r.remaining.length t r := by
  have entered : ¬ (!s.session.enabled || around.stopped (.settling category)) = true := by
    rw [going.enabled, going.running]
    decide
  unfold refresh
  exact if_neg entered

/-- A refresh of sets with members checks those that are not excluded. -/
theorem refresh_checks {around : Surroundings} {category : String}
    (going : s.Refreshable around category) (present : s.database.sets.isSome = true)
    (some : s.memberCount category ≠ 0) :
    s.refresh around category =
      checkMembers around (s.kept category).length (s.migrated around.clock category)
        (s.begun around.clock category) := by
  rw [refresh_entered going, beginRefresh_eq present going.recorded, if_neg some]
  rfl

theorem refresh_eq_error {around : Surroundings} {category : String}
    (going : s.Refreshable around category) (missing : ¬ s.database.sets.isSome = true) :
    s.refresh around category = (s, .error (.storage .database)) := by
  rw [refresh_entered going, beginRefresh_missing missing going.recorded]

theorem refresh_eq_start {around : Surroundings} {category : String}
    (going : s.Refreshable around category) (present : s.database.sets.isSome = true)
    (none : s.memberCount category = 0) :
    s.refresh around category = (s, .ok (some (.start category 0))) := by
  rw [refresh_entered going, beginRefresh_eq present going.recorded, if_pos none, none]

/-- A refresh that finds no members, or no table of sets, changes nothing. -/
theorem refresh_nothing {around : Surroundings} {category : String}
    (going : s.Refreshable around category)
    (none : ¬ s.database.sets.isSome = true ∨ s.memberCount category = 0) :
    (s.refresh around category).1 = s := by
  by_cases present : s.database.sets.isSome = true
  · rw [refresh_eq_start going present (none.resolve_left (not_not_intro present))]
  · rw [refresh_eq_error going present]

/-- A missing table of sets has no members. -/
theorem memberCount_missing (missing : ¬ s.database.sets.isSome = true) (category : String) :
    s.memberCount category = 0 := by
  unfold memberCount Database.pair Database.setAt
  rw [Option.not_isSome_iff_eq_none.mp missing]
  rfl

/-- Without members there is nothing to move. -/
theorem migrated_nothing {category : String}
    (none : ¬ s.database.sets.isSome = true ∨ s.memberCount category = 0) (clock : Clock) :
    s.migrated clock category = s := by
  have count : s.memberCount category = 0 := none.elim (memberCount_missing · category) id
  have empty : (s.database.pair category .hit).members = [] :=
    List.eq_nil_of_length_eq_zero (Nat.eq_zero_of_add_eq_zero_right count)
  unfold migrated excludedHits SetPair.excluded
  rw [empty]
  rfl

/-- **After the migration a refresh only removes names that are not excluded.** -/
theorem refresh_reaches {around : Surroundings} {category : String}
    (going : s.Refreshable around category) :
    Reaches (Removes s.registry category) (s.migrated around.clock category)
      (s.refresh around category).1 := by
  by_cases none : ¬ s.database.sets.isSome = true ∨ s.memberCount category = 0
  · rw [refresh_nothing going none, migrated_nothing none]
    exact Reaches.refl s
  · rw [not_or, not_not] at none
    rw [refresh_checks going none.1 none.2]
    exact checkMembers_reaches around _ (s.migrated around.clock category)
      (s.begun around.clock category) (begun_clean s around.clock category)

/-- Moving the excluded hits of a category, none of them refused by the database. -/
theorem pair_migrated {category : String}
    (accepted : ∀ name ∈ s.excludedHits category, s.database.Accepts name) (clock : Clock) :
    (s.migrated clock category).database.pair category =
      (s.database.pair category).recordAll (clock (.refresh category))
        ((s.excludedHits category).map (⟨·, .passthrough⟩)) := by
  let score := clock (.refresh category)
  unfold SetPair.recordAll
  rw [List.foldl_map]
  refine pair_foldl Prod.fst _ (fun db => ∀ name ∈ s.excludedHits category, db.Accepts name)
    category _ (s.excludedHits category) (s, false) (fun at_ name listed held => ?_) accepted
  let w : Write := .record category ⟨name, .passthrough⟩ score
  have moved : (at_.1.apply (Classification.addPassthrough (setKeys category) name score)).1.database =
      at_.1.database.write w := by
    rw [apply_fst]
    exact congrArg Prod.snd
      (Database.execute_addTo (m := ⟨name, .passthrough⟩) (held name listed) category score)
  refine ⟨fun other there => ?_, ?_⟩
  · show Database.Accepts (at_.1.apply _).1.database other
    rw [moved]
    exact (held other there).write w
  · show (at_.1.apply _).1.database.pair category = _
    rw [moved]
    exact Database.pair_record _ category ⟨name, .passthrough⟩ score

/-- Every score once the excluded hits are passthroughs. -/
theorem score?_migrated {category : String}
    (accepted : ∀ name ∈ s.excludedHits category, s.database.Accepts name) (clock : Clock) (side : Side)
    (name : String) :
    ((s.migrated clock category).database.pair category side).score? name =
      if name ∈ s.excludedHits category then
        if side = .passthrough then some (clock (.refresh category)) else none
      else (s.database.pair category side).score? name := by
  rw [pair_migrated accepted, SetPair.score?_recordAll, SetPair.lastSide?_map]
  by_cases moved : name ∈ s.excludedHits category
  · rw [if_pos moved, if_pos moved]
  · rw [if_neg moved, if_neg moved]

/-- Removals of names that are not excluded keep a pair reconciled. -/
theorem reconciled_of_removes {registry : Registry} {category : String} {p : SetPair}
    {before after : Database} (trail : Trail (Removes registry category) before after)
    (held : p.Reconciled (registry.exclusions category) (before.pair category)) :
    p.Reconciled (registry.exclusions category) (after.pair category) := by
  refine trail.preserves (P := fun db => p.Reconciled _ (db.pair category)) ?_ held
  rintro db w ⟨kept⟩ held
  rw [Database.pair_remove]
  exact held.after_remove kept

/-- **After a refresh the pair of its category is reconciled**, however the refresh ended, if the
database refused none of the excluded hits. -/
theorem refresh_reconciled {around : Surroundings} {category : String}
    (going : s.Refreshable around category)
    (accepted : ∀ name ∈ s.excludedHits category, s.database.Accepts name) :
    (s.database.pair category).Reconciled (s.registry.exclusions category)
      ((s.refresh around category).1.database.pair category) := by
  refine reconciled_of_removes (refresh_reaches going).trail ?_
  rw [pair_migrated accepted]
  exact SetPair.reconciled_recordAll _ _ _

end CategoryFilter.State
