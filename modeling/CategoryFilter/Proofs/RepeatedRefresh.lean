/-
**Refreshing twice.**

A refresh removes the members that are `outdated`: the local filter no longer lists them, or the source
contradicts them. Under fixed answers this does not depend on the other members, so the members that a
refresh has left are not outdated for the next one, which asks about fewer of them:

* `mem_removed_iff_outdated`: a refresh with a report removes exactly the outdated members.
* `mem_kept_refresh`: it leaves the members to check that it did not remove.
* `refresh_settled`: without excluded hits and outdated members a refresh only asks.
* `refresh_repeated`: so does a refresh right after one with a report, under the same answers.
-/

import CategoryFilter.Proofs.Reconciliation

namespace CategoryFilter

/-- Whether a verdict contradicts the set that a member is in. -/
def Verdict.contradicts : Verdict → Side → Bool
  | .refuted, .hit | .confirmed, .passthrough => true
  | _, _ => false

/-- A refresh takes a listed member out if the verdict of the source contradicts its set. -/
theorem Confirmation.contradicts_verdict (c : Confirmation) (m : Member) :
    (c.verdict m.domain).contradicts m.side =
      (!c.failed.contains m.domain && Refresh.drifted c m) := by
  unfold verdict Refresh.drifted
  cases c.failed.contains m.domain <;> cases c.confirmed.contains m.domain <;> cases m.side <;> rfl

/-- A report that nothing has changed. -/
structure RefreshReport.Unchanging (report : RefreshReport) : Prop where
  excluded : report.excluded = 0
  unmatched : report.unmatched = 0
  removedHits : report.removedHits = 0
  removedPassthrough : report.removedPassthrough = 0
  changed : report.changed = false

namespace Confirm

variable {services other : Services} {category : String} {source : Source} {style : Style}
  {keys fewer : List String} {confirmation : Confirmation} {a : Answers}

/-- A source that answered for some keys answers for fewer of them. -/
theorem exists_answer_of_subset (given : a.Given services) (later : a.Given other)
    (answered : (confirm services category source style keys).2 = .ok confirmation)
    (within : fewer ⊆ keys) :
    ∃ answer, (confirm other category source style fewer).2 = .ok answer := by
  unfold confirm
  split
  · exact ⟨_, rfl⟩
  · next some =>
    cases source with
    | trusted | intel => exact ⟨_, rfl⟩
    | cloud =>
      obtain ⟨present, reply, -⟩ := later.membership category
        (membershipRequest Domain.digest (style.hashSetId category) fewer)
      dsimp only
      rw [byHashSet_asked (mt List.isEmpty_iff.mpr some), reply]
      exact ⟨_, rfl⟩
    | file =>
      dsimp only
      unfold byListFile
      rw [if_neg some, later.listFile]
      cases answered_of_confirm answered with
      | idle source none =>
        rw [none, List.subset_nil] at within
        exact absurd (List.isEmpty_iff.mpr within) some
      | file loaded =>
        rw [given.allows.loadList_eq loaded]
        exact ⟨_, rfl⟩

end Confirm

namespace State

open Confirm (Answers)

variable {s t : State} {around again : Surroundings} {category : String} {m : Member}
  {report : RefreshReport} {a : Answers} {confirmation : Confirmation}

/-- Whether the local filter no longer lists a member, or the source contradicts it. -/
def outdated (s : State) (a : Answers) (services : Services) (category : String) (m : Member) : Bool :=
  !Refresh.listed services category m ||
    (a.verdict category (s.source category) (s.registry.style category) m.domain).contradicts m.side

/-- An answer of the source says which of the listed members are outdated. -/
theorem outdated_of_answer (given : a.Given around.services)
    (answer : (s.consultation around.services category).2 = .ok confirmation)
    (kept : m ∈ s.kept category) :
    s.outdated a around.services category m =
      (!Refresh.listed around.services category m ||
        !confirmation.failed.contains m.domain && Refresh.drifted confirmation m) := by
  unfold outdated
  cases listed : Refresh.listed around.services category m with
  | false => rfl
  | true =>
    have asked : m ∈ (s.kept category).filter (Refresh.listed around.services category) :=
      List.mem_filter.mpr ⟨kept, listed⟩
    rw [← Confirm.verdict_confirm given answer (List.mem_map_of_mem asked),
      Confirmation.contradicts_verdict]

/-- **A refresh with a report removes exactly the outdated members.** -/
theorem mem_removed_iff_outdated (given : a.Given around.services)
    (reported : (s.refresh around category).2 = .ok (some report)) :
    m ∈ s.removed around category ↔
      m ∈ s.kept category ∧ s.outdated a around.services category m = true := by
  obtain ⟨confirmation, answer, removed⟩ := exists_answer_of_report reported
  rw [removed, List.mem_append, List.mem_filter, List.mem_filter, List.mem_filter, and_assoc,
    ← and_or_left]
  refine and_congr_right fun kept => ?_
  rw [outdated_of_answer given answer kept]
  cases Refresh.listed around.services category m <;> simp

/-! ### The state that a refresh leaves -/

/-- A refresh leaves no excluded hits. -/
theorem excludedHits_refresh (healthy : s.database.Healthy) (going : s.Refreshable around category) :
    (s.refresh around category).1.excludedHits category = [] := by
  have reconciled := refresh_reconciled going fun _ _ => healthy.accepts _
  refine List.eq_nil_iff_forall_not_mem.mpr fun name moved => ?_
  obtain ⟨hit, covered⟩ := SetPair.mem_excluded.mp moved
  rw [(refresh_reaches_all s around category).registry, (reconciled.hits name hit).2] at covered
  cases covered

/-- **A refresh leaves the members to check that it did not remove.** -/
theorem mem_kept_refresh (healthy : s.database.Healthy) (going : s.Refreshable around category) :
    m ∈ (s.refresh around category).1.kept category ↔
      m ∈ s.kept category ∧ m ∉ s.removed around category := by
  rw [mem_kept_iff, mem_kept_iff, (refresh_reaches_all s around category).registry, and_right_comm]
  refine and_congr_left fun free => ?_
  rw [pair_refresh healthy going, SetPair.contains_removeAll, contains_moved m.side free]
  simp

/-- What a refresh with a report leaves is not outdated, and stays so under the same answers. -/
theorem not_outdated_refresh (healthy : s.database.Healthy) (given : a.Given around.services)
    (same : again.services.checkFilter = around.services.checkFilter)
    (reported : (s.refresh around category).2 = .ok (some report))
    (kept : m ∈ (s.refresh around category).1.kept category) :
    (s.refresh around category).1.outdated a again.services category m = false := by
  obtain ⟨before, spared⟩ := (mem_kept_refresh healthy (refreshable_of_report reported)).mp kept
  rw [mem_removed_iff_outdated given reported, and_iff_right before, Bool.not_eq_true] at spared
  unfold outdated source Refresh.listed at spared ⊢
  rw [(refresh_reaches_all s around category).registry, same, spared]

/-! ### The second refresh -/

/-- **Without excluded hits and outdated members a refresh only asks**, and its report is of no changes. -/
theorem refresh_settled (given : a.Given around.services) (moved : s.excludedHits category = [])
    (fresh : ∀ m ∈ s.kept category, s.outdated a around.services category m = false) :
    (∃ questions, (s.refresh around category).1 = s.ask questions) ∧
      ∀ report, (s.refresh around category).2 = .ok (some report) → report.Unchanging := by
  have nothing : s.moveExcluded (Category.setKeys category) (around.clock (.refresh category))
      (s.excludedHits category) = (s, false) := by
    rw [moved]
    rfl
  have migrated : s.migrated around.clock category = s := congrArg Prod.fst nothing
  have unchanged : (s.begun around.clock category).changed = false := congrArg Prod.snd nothing
  cases s.ending around category with
  | idle _ ends | unread _ _ ends =>
    rw [ends]
    exact ⟨⟨[], (ask_nil s).symm⟩, fun report done => by cases done⟩
  | empty _ _ _ ends =>
    rw [ends]
    refine ⟨⟨[], (ask_nil s).symm⟩, fun report done => ?_⟩
    cases done
    exact ⟨rfl, rfl, rfl, rfl, rfl⟩
  | stopped _ _ ends =>
    rw [ends, migrated, unchanged]
    exact ⟨⟨_, rfl⟩, fun report done => by cases done⟩
  | failed _ _ _ ends =>
    rw [ends, unchanged, questioned, migrated]
    exact ⟨⟨_, rfl⟩, fun report done => by cases done⟩
  | @answered _ _ confirmation answer ends =>
    let swept := (s.begun around.clock category).swept around.services
    have verdicts : ∀ m ∈ s.kept category, Refresh.listed around.services category m = true ∧
        (!confirmation.failed.contains m.domain && Refresh.drifted confirmation m) = false := by
      intro m kept
      have known := fresh m kept
      rw [outdated_of_answer given answer kept, Bool.or_eq_false_iff, Bool.not_eq_false'] at known
      exact known
    have unmatched : swept.unmatched = [] := by
      show (s.kept category).filter (!Refresh.listed around.services category ·) = []
      exact List.filter_eq_nil_iff.mpr fun m kept => by simp [verdicts m kept]
    have removals : swept.removals confirmation = [] :=
      List.filter_eq_nil_iff.mpr fun m escalated =>
        Bool.eq_false_iff.mp (verdicts m (List.mem_filter.mp escalated).1).2
    have first : s.withoutUnlisted around category = (s.questioned around category, false) := by
      rw [withoutUnlisted, unmatched]
      rfl
    have second : s.withoutRefuted around category confirmation =
        (s.questioned around category, false) := by
      rw [withoutRefuted, removals, first]
      rfl
    have flag : s.flagged around category confirmation = false := by
      rw [flagged, unchanged, first, second]
      rfl
    rw [ends, flag, second, questioned, migrated]
    refine ⟨⟨_, rfl⟩, fun report done => ?_⟩
    cases done
    refine ⟨congrArg List.length moved, congrArg List.length unmatched, ?_, ?_, rfl⟩
    · show ((swept.removals confirmation).filter _).length = 0
      rw [removals]
      rfl
    · show ((swept.removals confirmation).filter _).length = 0
      rw [removals]
      rfl

/-- Without a shutdown the second refresh gets an answer too, as it asks about fewer members. -/
theorem exists_report_again (healthy : s.database.Healthy) (given : a.Given around.services)
    (later : a.Given again.services) (same : again.services.checkFilter = around.services.checkFilter)
    (quiet : ∀ point, again.stopped point = false)
    (reported : (s.refresh around category).2 = .ok (some report)) :
    ∃ next, ((s.refresh around category).1.refresh again category).2 = .ok (some next) := by
  have going := refreshable_of_report reported
  have reached := refresh_reaches_all s around category
  have entered : (s.refresh around category).1.Refreshable again category :=
    ⟨reached.enabled.trans going.enabled, quiet _, reached.registry ▸ going.recorded⟩
  cases (s.refresh around category).1.ending again category with
  | idle idle _ => exact absurd entered idle
  | unread _ missing _ => exact absurd (reached.trail.healthy healthy).present missing
  | stopped _ stop _ =>
    obtain ⟨m, -, stopped⟩ := stop
    exact absurd ((quiet _).symm.trans stopped) Bool.false_ne_true
  | empty _ _ _ ends | answered _ _ _ ends => exact ⟨_, congrArg Prod.snd ends⟩
  | failed _ _ failure _ =>
    obtain ⟨confirmation, answered, -⟩ := exists_answer_of_report reported
    have fewer : ((s.refresh around category).1.kept category).filter
          (Refresh.listed again.services category) ⊆
        (s.kept category).filter (Refresh.listed around.services category) := by
      intro m asked
      obtain ⟨kept, listed⟩ := List.mem_filter.mp asked
      unfold Refresh.listed at listed ⊢
      rw [same] at listed
      exact List.mem_filter.mpr ⟨((mem_kept_refresh healthy going).mp kept).1, listed⟩
    obtain ⟨answer, known⟩ :=
      Confirm.exists_answer_of_subset given later answered (List.map_subset (·.domain) fewer)
    unfold consultation source at failure
    rw [reached.registry] at failure
    cases failure.symm.trans known

/-- **Refreshing twice is refreshing once.** If a refresh ends with a report and the services give fixed
answers, then a second one right after it changes nothing and sends no notice: it leaves the state as it
is but for the questions it asks. A report of it is of no changes, and without a shutdown there is one. -/
theorem refresh_repeated (healthy : s.database.Healthy) (given : a.Given around.services)
    (later : a.Given again.services) (same : again.services.checkFilter = around.services.checkFilter)
    (reported : (s.refresh around category).2 = .ok (some report)) :
    let first := (s.refresh around category).1
    let second := first.refresh again category
    (∃ questions, second.1 = first.ask questions) ∧
      (∀ next, second.2 = .ok (some next) → next.Unchanging) ∧
      ((∀ point, again.stopped point = false) → ∃ next, second.2 = .ok (some next)) := by
  intro first second
  have moved := excludedHits_refresh healthy (refreshable_of_report reported)
  have fresh : ∀ m ∈ first.kept category, first.outdated a again.services category m = false :=
    fun m kept => not_outdated_refresh healthy given same reported kept
  obtain ⟨asked, unchanging⟩ := refresh_settled later moved fresh
  exact ⟨asked, unchanging, fun quiet => exists_report_again healthy given later same quiet reported⟩

/-- A category confirmed by the intel lookup, with an excluded wildcard, four hits and two passthroughs. -/
def curated : State :=
  .new { Config.standard with
      categories := [{ Definition.new "ads" with
        strategy := .cloud, style := .curated [], excludedDomains := ["*.a.com"] }] }
    ((Database.new.replace (Category.hitKey "ads")
        ((((SortedSet.empty.insert "x.a.com" 1).insert "gone.com" 2).insert "b.com" 3).insert "c.com" 4)).replace
      (Category.passthroughKey "ads") ((SortedSet.empty.insert "d.com" 5).insert "y.a.com" 6))

/-- The lookup fails on one name, confirms one and knows no other. -/
def curatedAnswers : Answers where
  holds _ _ := false
  intel _ _ domain :=
    if domain = "c.com" then .error .timeout
    else if domain = "d.com" then .ok ⟨[⟨"d.com", "ads"⟩]⟩
    else .ok ⟨[]⟩
  listFile _ := .error .notFound

/-- Surroundings with these answers, in which the local filter no longer lists one name. -/
def curatedAround (now : Score) : Surroundings where
  services := {
    checkFilter := fun request =>
      if request.domain = "gone.com" then .ok ⟨[]⟩
      else .ok ⟨[⟨"category:ads", request.domain, .hit⟩]⟩
    membership := fun _ _ => .ok ⟨some []⟩
    intel := curatedAnswers.intel
    listFile := curatedAnswers.listFile }
  clock _ := now
  instant := 0
  stopped _ := false

theorem given_curated (now : Score) : curatedAnswers.Given (curatedAround now).services :=
  ⟨fun _ _ => ⟨[], rfl, fun _ _ => rfl⟩, rfl, rfl⟩

/-- One hit is excluded, one is no longer listed, one is refuted and one cannot be looked up, and one
passthrough is confirmed. The second refresh asks about the name without an answer again, and leaves it. -/
theorem refresh_repeated_curated :
    let first := curated.refresh (curatedAround 7) "ads"
    let second := first.1.refresh (curatedAround 8) "ads"
    curated.database.Healthy ∧ curatedAnswers.Given (curatedAround 7).services ∧
      curatedAnswers.Given (curatedAround 8).services ∧
      first.2 = .ok (some ⟨"ads", 6, 1, 1, 3, 1, 1, true⟩) ∧
      second.2 = .ok (some ⟨"ads", 3, 0, 0, 1, 0, 0, false⟩) ∧
      (∃ questions, second.1 = first.1.ask questions) ∧
      (∀ next, second.2 = .ok (some next) → next.Unchanging) ∧
      ((∀ point, (curatedAround 8).stopped point = false) → ∃ next, second.2 = .ok (some next)) := by
  intro first second
  have healthy : curated.database.Healthy := ⟨rfl, rfl⟩
  have reported : first.2 = .ok (some ⟨"ads", 6, 1, 1, 3, 1, 1, true⟩) := by decide +kernel
  exact ⟨healthy, given_curated 7, given_curated 8, reported, by decide +kernel,
    refresh_repeated healthy (given_curated 7) (given_curated 8) rfl reported⟩

end State

end CategoryFilter
