/-
**When a refresh and a deactivation send a notice.**

A refresh on its way out knows by its flag whether anything has changed since it began:

* `concludeRefresh_fst`, `checkMembers_fst`: however it ends, a refresh removes what it decided to
  remove and sends a notice if the flag of the migration or of the removals is up.
* `notified_refresh`, `sameMembers_refresh_iff`: so it sends one exactly if it moves an excluded hit or
  removes a member, and then the members differ.
* `exists_notices_refreshEach`: a refresh of all sends one for each category that it changes.
* `notified_deactivate`, `sameMembers_deactivate_iff`: a deactivation sends one exactly if there are
  members to delete.
-/

import CategoryFilter.Proofs.Examiner.Notice

namespace CategoryFilter.State

open Database (Trail)
open Category (setKeys)

variable {s : State} {category : String}

/-! ### Refresh -/

/-- A raised flag stays raised. -/
theorem foldl_raised {σ β : Type} (step : σ × Bool → β → σ × Bool) (items : List β)
    (each : ∀ x b, x.2 = true → (step x b).2 = true) :
    ∀ start : σ × Bool, start.2 = true → (items.foldl step start).2 = true := by
  induction items with
  | nil => exact fun _ raised => raised
  | cons b rest ih => exact fun start raised => ih (step start b) (each start b raised)

theorem notified_moveExcluded (s : State) (keys : Category.SetKeys) (score : Score)
    (names : List String) : (s.moveExcluded keys score names).1.notified = s.notified :=
  foldl_keeps (fun at_ : State × Bool => at_.1.notified) _ names (s, false)
    fun at_ _ => notified_apply at_.1 _

theorem notified_removeMembers (s : State) (keys : Category.SetKeys) (members : List Member) :
    (s.removeMembers keys members).1.notified = s.notified :=
  foldl_keeps (fun at_ : State × Bool => at_.1.notified) _ members (s, false)
    fun at_ _ => notified_apply at_.1 _

/-- Moving hits raises the flag if there are any. -/
theorem moveExcluded_snd (healthy : s.database.Healthy) (score : Score) {names : List String}
    (hits : ∀ name ∈ names, (s.database.pair category .hit).contains name = true) :
    (s.moveExcluded (setKeys category) score names).2 = !names.isEmpty := by
  cases names with
  | nil => rfl
  | cons name rest =>
    have moved : (s.apply (Classification.addPassthrough (setKeys category) name score)).2 =
        (s.database.pair category).gains ⟨name, .passthrough⟩ :=
      apply_snd (congrArg Prod.fst
        (Database.execute_addTo (m := ⟨name, .passthrough⟩) (healthy.accepts name) category score))
    have gained : (s.database.pair category).gains ⟨name, .passthrough⟩ = true := by
      show (_ || (s.database.pair category .hit).contains name) = true
      rw [hits name List.mem_cons_self, Bool.or_true]
    unfold moveExcluded
    rw [List.foldl_cons]
    refine foldl_raised _ rest (fun x b raised => ?_) _ ?_
    · show (x.2 || _) = true
      rw [raised]
      rfl
    · show (false || (s.apply _).2) = true
      rw [moved, gained]
      rfl

/-- Removing one member more: the state and the flag so far. -/
def takeOut (category : String) (so_far : State × Bool) (m : Member) : State × Bool :=
  let (s, removed) := so_far.1.apply (Database.removeFrom category m)
  (s, so_far.2 || removed)

theorem foldl_takeOut (category : String) (members : List Member) :
    ∀ (s : State) (flag : Bool), members.foldl (takeOut category) (s, flag) =
      ((s.removeMembers (setKeys category) members).1,
        flag || (s.removeMembers (setKeys category) members).2) := by
  induction members with
  | nil => exact fun s flag => congrArg (Prod.mk s) (Bool.or_false flag).symm
  | cons m rest ih =>
    intro s flag
    let gone := s.apply (Database.removeFrom category m)
    have split : s.removeMembers (setKeys category) (m :: rest) =
        rest.foldl (takeOut category) (gone.1, false || gone.2) := rfl
    show rest.foldl (takeOut category) (gone.1, flag || gone.2) = _
    rw [split, ih, ih, Bool.false_or, Bool.or_assoc]

theorem removeMembers_append (s : State) (category : String) (first second : List Member) :
    let gone := s.removeMembers (setKeys category) first
    s.removeMembers (setKeys category) (first ++ second) =
      ((gone.1.removeMembers (setKeys category) second).1,
        gone.2 || (gone.1.removeMembers (setKeys category) second).2) := by
  intro gone
  have split : s.removeMembers (setKeys category) (first ++ second) =
      second.foldl (takeOut category) gone := List.foldl_append ..
  rw [split, ← foldl_takeOut]

/-- Removing members raises the flag if one of them was there. -/
theorem removeMembers_snd (category : String) (members : List Member) :
    ∀ s : State, s.database.Healthy → (s.removeMembers (setKeys category) members).2 =
      members.any fun m => (s.database.pair category m.side).contains m.domain := by
  induction members with
  | nil => exact fun _ _ => rfl
  | cons m rest ih =>
    intro s healthy
    let gone := s.apply (Database.removeFrom category m)
    have answer := Database.execute_removeFrom (healthy.accepts m.domain) category
    have after : gone.1.database = s.database.write (.remove category m) := by
      show (s.apply _).1.database = _
      rw [apply_fst]
      exact congrArg Prod.snd answer
    have was : gone.2 = (s.database.pair category m.side).contains m.domain :=
      apply_snd (congrArg Prod.fst answer)
    have split : (s.removeMembers (setKeys category) (m :: rest)).2 =
        (gone.2 || (gone.1.removeMembers (setKeys category) rest).2) :=
      congrArg Prod.snd (foldl_takeOut category rest gone.1 gone.2)
    rw [split, ih gone.1 (by rw [after]; exact healthy.write _), after, was, Database.pair_remove,
      List.any_cons]
    -- If `m` was there the flag is raised anyway; if not, its removal changes nothing for the rest.
    cases here : (s.database.pair category m.side).contains m.domain with
    | true => rfl
    | false =>
      refine congrArg (false || ·) (List.any_congr rfl fun other => ?_)
      exact SetPair.sameMembers_remove here other.side other.domain

/-- The end of a refresh removes what it drops, and sends a notice if anything has changed since the
refresh began. -/
theorem concludeRefresh_fst (s : State) (services : Services) (r : Refresh) :
    let asked := s.ask (consultMembers services (s.registry.style r.category) r).1
    let gone := asked.removeMembers (setKeys r.category)
      (dropped services (s.registry.style r.category) r)
    (s.concludeRefresh services r).1 = gone.1.notifyIf (r.changed || gone.2) r.category := by
  intro asked gone
  cases answer : (consultMembers services (s.registry.style r.category) r).2 with
  | error cause =>
    have none : gone = (asked, false) := by
      show asked.removeMembers _ (dropped _ _ r) = _
      rw [dropped, answer]
      rfl
    rw [concludeRefresh_failed answer, none, Bool.or_false]
  | ok confirmation =>
    let first := asked.removeMembers (setKeys r.category) r.unmatched
    let second := first.1.removeMembers (setKeys r.category) (r.removals confirmation)
    have both : gone = (second.1, first.2 || second.2) := by
      show asked.removeMembers _ (dropped _ _ r) = _
      rw [dropped, answer]
      exact removeMembers_append asked r.category r.unmatched (r.removals confirmation)
    rw [concludeRefresh_answered answer, both, ← Bool.or_assoc]

/-- The end of a refresh that has begun, however it ends. -/
theorem checkMembers_fst {t : State} (same : t.registry = s.registry) (around : Surroundings)
    (category : String) :
    ∃ questions, (checkMembers around (s.kept category).length t (s.begun around.clock category)).1 =
      ((t.ask questions).removeMembers (setKeys category) (s.removed around category)).1.notifyIf
        ((s.begun around.clock category).changed ||
          ((t.ask questions).removeMembers (setKeys category) (s.removed around category)).2)
        category := by
  let begun := s.begun around.clock category
  cases given : (s.kept category).any fun m => around.stopped (.member category m.domain) with
  | true =>
    refine ⟨begun.questionsBefore around, ?_⟩
    rw [checkMembers_stopped around (s.kept category).length t begun rfl (List.any_eq_true.mp given),
      removed, if_pos given]
    show _ = State.notifyIf (t.ask (begun.questionsBefore around)) (begun.changed || false) category
    rw [Bool.or_false]
    rfl
  | false =>
    have through : ∀ m ∈ s.kept category, around.stopped (.member category m.domain) = false :=
      fun m listed => Bool.eq_false_iff.mpr (List.any_eq_false.mp given m listed)
    let asked := (consultMembers around.services (s.registry.style category)
      (begun.swept around.services)).1
    have last := concludeRefresh_fst (t.ask begun.questions) around.services
      (begun.swept around.services)
    rw [show (t.ask begun.questions).registry = s.registry from same, ask_ask] at last
    refine ⟨begun.questions ++ asked, ?_⟩
    rw [checkMembers_through around (s.kept category).length t begun rfl through, removed,
      if_neg (Bool.eq_false_iff.mp given)]
    exact last

/-- The members that a refresh removes are in their sets and not excluded. -/
theorem removed_kept {around : Surroundings} {m : Member} (gone : m ∈ s.removed around category) :
    (s.database.pair category m.side).contains m.domain = true ∧
      (s.registry.exclusions category).covers m.domain = false := by
  have kept : m ∈ s.kept category := by
    unfold removed at gone
    dsimp only at gone
    split at gone
    · cases gone
    · split at gone
      · cases gone
      · rcases List.mem_append.mp gone with unlisted | refuted
        · exact (List.mem_filter.mp unlisted).1
        · exact (List.mem_filter.mp (List.mem_filter.mp refuted).1).1
  rcases List.mem_append.mp kept with hit | passthrough
  · obtain ⟨name, there, rfl⟩ := List.mem_map.mp hit
    obtain ⟨held, free⟩ := List.mem_filter.mp there
    exact ⟨SortedSet.contains_iff.mpr held, by simpa using free⟩
  · obtain ⟨name, there, rfl⟩ := List.mem_map.mp passthrough
    obtain ⟨held, free⟩ := List.mem_filter.mp there
    exact ⟨SortedSet.contains_iff.mpr held, by simpa using free⟩

/-- A member that is not excluded stays where it was while the excluded hits are moved. -/
theorem contains_moved {score : Score} {name : String} (side : Side)
    (free : (s.registry.exclusions category).covers name = false) :
    ((s.database.pair category).recordAll score
        ((s.excludedHits category).map (⟨·, .passthrough⟩)) side).contains name =
      (s.database.pair category side).contains name := by
  have absent : name ∉ s.excludedHits category := fun listed => by
    rw [(SetPair.mem_excluded.mp listed).2] at free
    cases free
  rw [SetPair.contains_recordAll, SetPair.lastSide?_map, if_neg absent]

/-- Whether a refresh moves an excluded hit or removes a member. -/
def changes (s : State) (around : Surroundings) (category : String) : Bool :=
  !(s.excludedHits category).isEmpty || !(s.removed around category).isEmpty

theorem changes_eq_false_iff {around : Surroundings} :
    s.changes around category = false ↔
      s.excludedHits category = [] ∧ s.removed around category = [] := by
  unfold changes
  rw [Bool.or_eq_false_iff, Bool.not_eq_false', Bool.not_eq_false', List.isEmpty_iff,
    List.isEmpty_iff]

theorem changes_of_no_members (none : s.memberCount category = 0) (around : Surroundings) :
    s.changes around category = false := by
  have empty : (s.database.pair category .hit).members = [] :=
    List.eq_nil_of_length_eq_zero (Nat.eq_zero_of_add_eq_zero_right none)
  refine changes_eq_false_iff.mpr ⟨?_, removed_of_no_members none around⟩
  unfold excludedHits SetPair.excluded
  rw [empty]
  rfl

/-- **A refresh sends a notice exactly if it changes something**, however it ends. -/
theorem notified_refresh (healthy : s.database.Healthy) {around : Surroundings}
    (going : s.Refreshable around category) :
    (s.refresh around category).1.notified =
      s.notified ++ if s.changes around category then [category] else [] := by
  by_cases none : s.memberCount category = 0
  · rw [refresh_nothing going (Or.inr none), changes_of_no_members none]
    exact (List.append_nil _).symm
  · let migrated := s.migrated around.clock category
    have reached : Reaches (Moves s.registry category) s migrated := migrated_reaches s _ category
    obtain ⟨questions, last⟩ := checkMembers_fst reached.registry around category
    have kept : (migrated.ask questions).notified = s.notified := notified_moveExcluded s _ _ _
    have moved : (s.begun around.clock category).changed = !(s.excludedHits category).isEmpty :=
      moveExcluded_snd healthy _ fun name listed => (SetPair.mem_excluded.mp listed).1
    have gone : ((migrated.ask questions).removeMembers (setKeys category)
        (s.removed around category)).2 = !(s.removed around category).isEmpty := by
      rw [removeMembers_snd category _ (migrated.ask questions) (reached.trail.healthy healthy)]
      cases listed : s.removed around category with
      | nil => rfl
      | cons m rest =>
        obtain ⟨there, free⟩ := removed_kept (listed ▸ List.mem_cons_self : m ∈ s.removed _ _)
        have held : (migrated.database.pair category m.side).contains m.domain = true := by
          rw [pair_migrated fun _ _ => healthy.accepts _, contains_moved m.side free, there]
        rw [List.any_cons]
        exact congrArg (· || _) held
    rw [refresh_checks going healthy.present none, last, notified_notifyIf, notified_removeMembers,
      kept, moved, gone]
    rfl

/-- **Whatever a refresh changes, it changes a member.** -/
theorem sameMembers_refresh_iff (healthy : s.database.Healthy) {around : Surroundings}
    (going : s.Refreshable around category) :
    (s.database.pair category).SameMembers ((s.refresh around category).1.database.pair category) ↔
      s.changes around category = false := by
  rw [pair_refresh healthy going, changes_eq_false_iff]
  constructor
  · intro same
    refine ⟨List.eq_nil_iff_forall_not_mem.mpr fun name listed => ?_,
      List.eq_nil_iff_forall_not_mem.mpr fun m gone => ?_⟩
    · have left := same .hit name
      rw [SetPair.contains_removeAll, SetPair.contains_recordAll, SetPair.lastSide?_map,
        if_pos listed, (SetPair.mem_excluded.mp listed).1] at left
      cases left
    · have left := same m.side m.domain
      rw [SetPair.contains_removeAll, List.contains_iff_mem.mpr gone, (removed_kept gone).1,
        Bool.not_true, Bool.and_false] at left
      cases left
  · rintro ⟨moved, gone⟩
    rw [moved, gone]
    exact .refl _

/-- A refresh of a category sends one notice if its members differ afterwards, else none. -/
theorem exists_notice_refresh (healthy : s.database.Healthy) (around : Surroundings)
    (category : String) :
    ∃ sent, (s.refresh around category).1.notified = s.notified ++ sent ∧ sent.Sublist [category] ∧
      (category ∈ sent ↔ ¬ (s.database.pair category).SameMembers
        ((s.refresh around category).1.database.pair category)) := by
  by_cases going : s.Refreshable around category
  · refine ⟨_, notified_refresh healthy going, ?_⟩
    rw [sameMembers_refresh_iff healthy going, Bool.not_eq_false]
    cases s.changes around category with
    | true => simp
    | false => simp
  · rw [refresh_idle going]
    refine ⟨[], (List.append_nil _).symm, List.nil_sublist _, ?_⟩
    simp [SetPair.SameMembers.refl]

/-- A refresh of several categories sends a notice for each one whose members differ afterwards. -/
theorem exists_notices_refreshEach (around : Surroundings) (categories : List String) :
    ∀ s : State, s.database.Healthy → categories.Nodup →
      ∃ sent, (s.refreshEach around categories).1.notified = s.notified ++ sent ∧
        sent.Sublist categories ∧ ∀ category, category ∈ sent ↔
          ¬ (s.database.pair category).SameMembers
            ((s.refreshEach around categories).1.database.pair category) := by
  induction categories with
  | nil =>
    intro s _ _
    refine ⟨[], (List.append_nil _).symm, List.Sublist.slnil, fun category => ?_⟩
    simp [refreshEach, SetPair.SameMembers.refl]
  | cons first rest ih =>
    intro s healthy distinct
    obtain ⟨absent, distinct⟩ := List.nodup_cons.mp distinct
    rw [refreshEach_cons]
    split
    · refine ⟨[], (List.append_nil _).symm, List.nil_sublist _, fun category => ?_⟩
      simp [SetPair.SameMembers.refl]
    · let next := (s.refresh around first).1
      have reached := refresh_reaches_all s around first
      obtain ⟨here, notice, own, changed⟩ := exists_notice_refresh healthy around first
      obtain ⟨later, notices, listed, others⟩ := ih next (reached.trail.healthy healthy) distinct
      refine ⟨here ++ later, ?_, own.append listed, fun category => ?_⟩
      · rw [notices, notice, List.append_assoc]
      · rw [List.mem_append]
        by_cases same : category = first
        · have last : (next.refreshEach around rest).1.database.pair category =
              next.database.pair category :=
            pair_refreshEach_unturned rest next fun turned =>
              absent (same ▸ (List.takeWhile_sublist _).subset turned)
          have quiet : category ∉ later := fun sent => absent (same ▸ listed.subset sent)
          rw [last, same, changed]
          exact or_iff_left (same ▸ quiet)
        · have still : next.database.pair category = s.database.pair category :=
            reached.trail.pair_eq fun _ _ allowed equal =>
              same (equal.symm.trans (category_of_refreshes allowed))
          have quiet : category ∉ here := fun sent => same (List.mem_singleton.mp (own.subset sent))
          rw [← still, ← others category]
          exact or_iff_right quiet

/-! ### Deactivation -/

/-- Whether a category has members. -/
def populated (s : State) (category : String) : Bool :=
  !(s.database.pair category .hit).isEmpty || !(s.database.pair category .passthrough).isEmpty

theorem deactivate_fst (healthy : s.database.Healthy) (category : String) :
    (s.deactivate category).1 =
      State.notifyIf
        { s with
          database := (s.database.write (.clear category .hit)).write (.clear category .passthrough) }
        (s.populated category) category := by
  have cleared : s.act (Classification.clear (setKeys category)) =
      ({ s with
          database := (s.database.write (.clear category .hit)).write (.clear category .passthrough) },
        .ok (s.populated category)) := by
    refine Prod.ext ?_ ?_
    · rw [act_fst, Database.execute_clear healthy]
    · rw [act_snd, Database.execute_clear healthy]
      rfl
  unfold deactivate
  rw [cleared]

theorem pair_deactivate (healthy : s.database.Healthy) (category : String) (side : Side) :
    (s.deactivate category).1.database.pair category side = .empty := by
  rw [deactivate_fst healthy, database_notifyIf]
  exact Database.pair_clears s.database category side

/-- **A deactivation sends a notice exactly if the category has members.** -/
theorem notified_deactivate (healthy : s.database.Healthy) (category : String) :
    (s.deactivate category).1.notified =
      s.notified ++ if s.populated category then [category] else [] := by
  rw [deactivate_fst healthy, notified_notifyIf]

theorem sameMembers_deactivate_iff (healthy : s.database.Healthy) (category : String) :
    (s.database.pair category).SameMembers ((s.deactivate category).1.database.pair category) ↔
      s.populated category = false := by
  rw [populated, Bool.or_eq_false_iff, Bool.not_eq_false', Bool.not_eq_false',
    SortedSet.isEmpty_iff, SortedSet.isEmpty_iff]
  have none : ∀ side name,
      ((s.deactivate category).1.database.pair category side).contains name = false := by
    intro side name
    rw [pair_deactivate healthy, SortedSet.contains_empty]
  constructor
  · intro same
    refine ⟨SortedSet.eq_empty_of_forall fun name => ?_, SortedSet.eq_empty_of_forall fun name => ?_⟩
    · rw [← same .hit name, none]
    · rw [← same .passthrough name, none]
  · rintro ⟨hits, passthroughs⟩ side name
    rw [none]
    cases side with
    | hit => rw [hits, SortedSet.contains_empty]
    | passthrough => rw [passthroughs, SortedSet.contains_empty]

/-- A deactivation of a category sends one notice if its members differ afterwards, else none. -/
theorem exists_notice_deactivate (healthy : s.database.Healthy) (category : String) :
    ∃ sent, (s.deactivate category).1.notified = s.notified ++ sent ∧ sent.Sublist [category] ∧
      (category ∈ sent ↔ ¬ (s.database.pair category).SameMembers
        ((s.deactivate category).1.database.pair category)) := by
  refine ⟨_, notified_deactivate healthy category, ?_⟩
  rw [sameMembers_deactivate_iff healthy, Bool.not_eq_false]
  cases s.populated category with
  | true => simp
  | false => simp

end CategoryFilter.State
