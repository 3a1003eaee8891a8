/-
**What a refresh leaves, asks and reports.**

A refresh without a shutdown, whose source answers, sorts the members of its category by three questions:
whether they are excluded, whether the local filter still `Lists` them, and what the source says of them.

* `mem_removed_iff`: the members that it removes.
* `score?_refresh`: every name's score afterwards, in both sets.
* `refresh_answered`: its questions, its report and its notice.
* `refresh_reconciles`: all of it, for any disjoint sets, exclusions and answers.
-/

import CategoryFilter.Proofs.Examiner.Twins
import CategoryFilter.Proofs.RefreshAgreement

namespace CategoryFilter

open Category (setKeys)

/-- The local filter still lists a name in a category: it fails on it, or its first result with the uid of
the category says anything but no match. -/
def Lists (services : Services) (category name : String) : Prop :=
  (∃ cause, services.checkFilter (Refresh.request category name) = .error cause) ∨
    ∃ response r, services.checkFilter (Refresh.request category name) = .ok response ∧
      response.results.find? (fun r => r.uid = Category.filterUid category) = some r ∧
        r.status ≠ .noMatch

theorem Refresh.listed_iff {services : Services} {category : String} {m : Member} :
    Refresh.listed services category m = true ↔ Lists services category m.domain := by
  unfold Refresh.listed stillListed Lists
  cases services.checkFilter (Refresh.request category m.domain) with
  | error cause => simp
  | ok response =>
    cases found : response.results.find? fun r => r.uid = Category.filterUid category with
    | none => simp [found]
    | some r => simp [found]

namespace State

variable {s : State} {around : Surroundings} {category name : String} {m : Member}
  {confirmation : Confirmation}

/-! ### The sets -/

theorem mem_kept_iff : m ∈ s.kept category ↔
    (s.database.pair category m.side).contains m.domain = true ∧
      (s.registry.exclusions category).covers m.domain = false := by
  obtain ⟨name, side⟩ := m
  unfold kept
  cases side <;> simp [SortedSet.contains_iff]

/-- **The members that a refresh removes**: of those that are not excluded the ones that are no longer
listed, and the listed ones that the source contradicts. -/
theorem mem_removed_iff (quiet : ∀ point, around.stopped point = false)
    (answered : s.consultKept around category = .ok confirmation) :
    m ∈ s.removed around category ↔ m ∈ s.kept category ∧
      (Lists around.services category m.domain →
        m.domain ∉ confirmation.failed ∧ Refresh.drifted confirmation m = true) := by
  rw [removed_answered (fun _ _ => quiet _) answered]
  simp only [List.mem_append, List.mem_filter, Bool.and_eq_true, Bool.not_eq_true',
    ← Bool.not_eq_true, List.contains_iff_mem, ← Refresh.listed_iff]
  by_cases listed : Refresh.listed around.services category m = true <;> simp [listed]

/-- **Every score after a refresh.** -/
theorem score?_refresh (healthy : s.database.Healthy) (going : s.Refreshable around category)
    (side : Side) (name : String) :
    ((s.refresh around category).1.database.pair category side).score? name =
      if ⟨name, side⟩ ∈ s.removed around category then none
      else if name ∈ s.excludedHits category then
        if side = .passthrough then some (around.clock (.refresh category)) else none
      else (s.database.pair category side).score? name := by
  have accepted : ∀ name ∈ s.excludedHits category, s.database.Accepts name :=
    fun _ _ => healthy.accepts _
  rw [pair_refresh healthy going, SetPair.score?_removeAll, ← pair_migrated accepted,
    score?_migrated accepted]

/-- A member that is not excluded keeps its score, unless it is no longer listed or the source contradicts
it. -/
theorem score?_refresh_free (healthy : s.database.Healthy) (going : s.Refreshable around category)
    (quiet : ∀ point, around.stopped point = false)
    (answered : s.consultKept around category = .ok confirmation)
    (free : (s.registry.exclusions category).covers m.domain = false) {score : Score} :
    ((s.refresh around category).1.database.pair category m.side).score? m.domain = some score ↔
      (s.database.pair category m.side).score? m.domain = some score ∧
        Lists around.services category m.domain ∧
          (m.domain ∈ confirmation.failed ∨ Refresh.drifted confirmation m = false) := by
  have unmoved : m.domain ∉ s.excludedHits category := fun moved => by
    rw [(SetPair.mem_excluded.mp moved).2] at free
    cases free
  rw [score?_refresh healthy going, if_neg unmoved, Option.ite_none_left_eq_some, and_comm]
  refine and_congr_right fun found => ?_
  have kept : m ∈ s.kept category := by
    refine mem_kept_iff.mpr ⟨?_, free⟩
    unfold SortedSet.contains
    rw [found]
    rfl
  rw [show (⟨m.domain, m.side⟩ : Member) = m from rfl, mem_removed_iff quiet answered,
    and_iff_right kept, Classical.not_imp, not_and_or, not_not, Bool.not_eq_true]

/-- An excluded hit becomes a passthrough, and an excluded passthrough stays. -/
theorem score?_refresh_excluded (healthy : s.database.Healthy)
    (going : s.Refreshable around category)
    (covered : (s.registry.exclusions category).covers name = true) (side : Side) :
    ((s.refresh around category).1.database.pair category side).score? name =
      if (s.database.pair category .hit).contains name = true then
        if side = .passthrough then some (around.clock (.refresh category)) else none
      else (s.database.pair category side).score? name := by
  have unremoved : (⟨name, side⟩ : Member) ∉ s.removed around category := fun gone => by
    rw [(removed_kept gone).2] at covered
    cases covered
  rw [score?_refresh healthy going, if_neg unremoved]
  exact if_congr (SetPair.mem_excluded.trans (and_iff_left covered)) rfl rfl

/-- **The hits after a refresh.** -/
theorem score?_hit_refresh (healthy : s.database.Healthy) (going : s.Refreshable around category)
    (quiet : ∀ point, around.stopped point = false)
    (answered : s.consultKept around category = .ok confirmation) {score : Score} :
    ((s.refresh around category).1.database.pair category .hit).score? name = some score ↔
      (s.database.pair category .hit).score? name = some score ∧
        (s.registry.exclusions category).covers name = false ∧
        Lists around.services category name ∧
          (name ∈ confirmation.confirmed ∨ name ∈ confirmation.failed) := by
  cases covered : (s.registry.exclusions category).covers name with
  | false =>
    rw [score?_refresh_free (m := ⟨name, .hit⟩) healthy going quiet answered covered]
    simp [Refresh.drifted, or_comm]
  | true =>
    refine iff_of_false (fun found => ?_) fun kept => Bool.false_ne_true kept.2.1.symm
    rw [score?_refresh_excluded healthy going covered] at found
    split at found
    · cases found
    · next absent =>
      unfold SortedSet.contains at absent
      rw [found] at absent
      exact absent rfl

/-- **The passthroughs after a refresh.** -/
theorem score?_passthrough_refresh (healthy : s.database.Healthy)
    (exclusive : (s.database.pair category).Exclusive) (going : s.Refreshable around category)
    (quiet : ∀ point, around.stopped point = false)
    (answered : s.consultKept around category = .ok confirmation) {score : Score} :
    ((s.refresh around category).1.database.pair category .passthrough).score? name = some score ↔
      ((s.database.pair category .hit).contains name = true ∧
        (s.registry.exclusions category).covers name = true ∧
        score = around.clock (.refresh category)) ∨
      ((s.database.pair category .passthrough).score? name = some score ∧
        ((s.registry.exclusions category).covers name = true ∨
          Lists around.services category name ∧
            (name ∈ confirmation.failed ∨ name ∉ confirmation.confirmed))) := by
  cases covered : (s.registry.exclusions category).covers name with
  | false =>
    rw [score?_refresh_free (m := ⟨name, .passthrough⟩) healthy going quiet answered covered]
    simp [Refresh.drifted]
  | true =>
    rw [score?_refresh_excluded healthy going covered, if_pos rfl]
    by_cases hit : (s.database.pair category .hit).contains name = true
    · have absent : (s.database.pair category .passthrough).score? name = none := by
        rw [← Option.not_isSome_iff_eq_none]
        exact fun there => exclusive name ⟨hit, there⟩
      rw [if_pos hit, absent, Option.some.injEq, eq_comm]
      simp [hit]
    · rw [if_neg hit]
      simp [hit]

/-! ### The questions and the report -/

theorem asked_apply (s : State) (action : Action Bool) : (s.apply action).1.asked = s.asked := by
  rw [apply_fst]

theorem asked_notifyIf (s : State) (changed : Bool) (category : String) :
    (s.notifyIf changed category).asked = s.asked := by
  unfold notifyIf
  split <;> rfl

theorem asked_migrated (s : State) (clock : Clock) (category : String) :
    (s.migrated clock category).asked = s.asked :=
  foldl_keeps (fun at_ : State × Bool => at_.1.asked) _ (s.excludedHits category) (s, false)
    fun at_ _ => asked_apply at_.1 _

theorem asked_removeMembers (s : State) (keys : Category.SetKeys) (members : List Member) :
    (s.removeMembers keys members).1.asked = s.asked :=
  foldl_keeps (fun at_ : State × Bool => at_.1.asked) _ members (s, false)
    fun at_ _ => asked_apply at_.1 _

/-- The report of a refresh whose source answers. -/
def answeredReport (s : State) (around : Surroundings) (category : String)
    (confirmation : Confirmation) (changed : Bool) : RefreshReport :=
  concludedReport ((s.begun around.clock category).swept around.services) confirmation changed

/-- The end of a refresh: its report, its questions and its notices. -/
theorem refresh_answered (present : s.database.sets.isSome = true)
    (going : s.Refreshable around category) (quiet : ∀ point, around.stopped point = false)
    (answered : s.consultKept around category = .ok confirmation) :
    ∃ changed,
      (s.refresh around category).2 =
        .ok (some (s.answeredReport around category confirmation changed)) ∧
      (s.refresh around category).1.asked =
        s.asked ++ s.refreshQuestions around.services category ∧
      (s.refresh around category).1.notified =
        s.notified ++ if changed then [category] else [] := by
  cases s.ending around category with
  | idle idle _ => exact absurd going idle
  | unread _ missing _ => exact absurd present missing
  | stopped _ stop _ =>
    obtain ⟨m, -, stopped⟩ := stop
    exact absurd ((quiet _).symm.trans stopped) Bool.false_ne_true
  | failed _ _ failure _ => cases failure.symm.trans answered
  | empty _ _ none ends =>
    have kept := kept_of_no_members none
    have moved := (changes_eq_false_iff.mp (changes_of_no_members none around)).1
    rw [ends]
    refine ⟨false, ?_, ?_, (List.append_nil _).symm⟩
    · unfold answeredReport concludedReport begun Refresh.swept Refresh.removals
      rw [kept, moved, none]
      rfl
    · unfold refreshQuestions
      rw [kept]
      exact (List.append_nil _).symm
  | answered _ _ answer ends =>
    cases answer.symm.trans answered
    rw [ends]
    refine ⟨_, rfl, ?_, ?_⟩
    · rw [asked_notifyIf, withoutRefuted, asked_removeMembers, withoutUnlisted, asked_removeMembers]
      exact congrArg (· ++ _) (asked_migrated s around.clock category)
    · rw [notified_notifyIf, withoutRefuted, notified_removeMembers, withoutUnlisted,
        notified_removeMembers]
      exact congrArg (· ++ _) (notified_moveExcluded s _ _ _)

/-- Every member is excluded or checked. -/
theorem memberCount_eq (s : State) (category : String) : s.memberCount category =
    (s.excludedHits category).length +
      (s.database.pair category .passthrough).members.countP (s.registry.exclusions category).covers +
      (s.kept category).length := by
  have hits := List.length_eq_length_filter_add (l := (s.database.pair category .hit).members)
    (s.registry.exclusions category).covers
  have passthroughs := List.length_eq_length_filter_add
    (l := (s.database.pair category .passthrough).members) (s.registry.exclusions category).covers
  unfold memberCount excludedHits SetPair.excluded kept
  rw [List.length_append, List.length_map, List.length_map, List.countP_eq_length_filter]
  omega

theorem length_removals (s : State) (around : Surroundings) (category : String)
    (confirmation : Confirmation) (side : Side) :
    ((((s.begun around.clock category).swept around.services).removals confirmation).filter
        fun m => m.side = side).length =
      (s.kept category).countP fun m =>
        m.side = side && Refresh.listed around.services category m &&
          !confirmation.failed.contains m.domain && Refresh.drifted confirmation m := by
  have escalated : ((s.begun around.clock category).swept around.services).escalated =
      (s.kept category).filter (Refresh.listed around.services category) := rfl
  unfold Refresh.removals
  rw [escalated, List.filter_filter, List.filter_filter, List.countP_eq_length_filter]
  refine congrArg List.length (List.filter_congr fun m _ => ?_)
  cases Refresh.listed around.services category m <;> simp [Bool.and_assoc]

/-- What a refresh leaves, asks and reports if its source answers. -/
structure Reconciles (s : State) (around : Surroundings) (category : String)
    (confirmation : Confirmation) (t : State) (report : RefreshReport) : Prop where
  /-- The hits left are those that are not excluded, are listed, and are confirmed or failed; each has its
  score. -/
  hits : ∀ name score, (t.database.pair category .hit).score? name = some score ↔
    (s.database.pair category .hit).score? name = some score ∧
      (s.registry.exclusions category).covers name = false ∧
      Lists around.services category name ∧
        (name ∈ confirmation.confirmed ∨ name ∈ confirmation.failed)
  /-- The passthroughs left are the excluded hits, with the score of the refresh, and with their scores
  the excluded passthroughs and those that are listed and failed or not confirmed. -/
  passthroughs : ∀ name score, (t.database.pair category .passthrough).score? name = some score ↔
    ((s.database.pair category .hit).contains name = true ∧
      (s.registry.exclusions category).covers name = true ∧
      score = around.clock (.refresh category)) ∨
    ((s.database.pair category .passthrough).score? name = some score ∧
      ((s.registry.exclusions category).covers name = true ∨
        Lists around.services category name ∧
          (name ∈ confirmation.failed ∨ name ∉ confirmation.confirmed)))
  /-- The sets of other categories are as they were. -/
  others : ∀ other, other ≠ category → t.database.pair other = s.database.pair other
  /-- The local filter is asked about the members that are not excluded, and the source about those of
  them that are listed. -/
  asked : ∃ checked escalated : List Member,
    t.asked = s.asked ++
      ((checked.map fun m => .filter (Refresh.request category m.domain)) ++
        (Confirm.confirm around.services category (s.source category) (s.registry.style category)
          (escalated.map (·.domain))).1) ∧
    (∀ m, m ∈ checked ↔ (s.database.pair category m.side).contains m.domain = true ∧
      (s.registry.exclusions category).covers m.domain = false) ∧
    ∀ m, m ∈ escalated ↔ m ∈ checked ∧ Lists around.services category m.domain
  /-- The report counts every member once. -/
  total : report.checked = report.excluded +
    (s.database.pair category .passthrough).members.countP (s.registry.exclusions category).covers +
    report.unmatched + report.escalated
  checked : report.checked =
    (s.database.pair category .hit).size + (s.database.pair category .passthrough).size
  excluded : report.excluded =
    (s.database.pair category .hit).members.countP (s.registry.exclusions category).covers
  unmatched : report.unmatched =
    (s.kept category).countP (!Refresh.listed around.services category ·)
  escalated : report.escalated = (s.kept category).countP (Refresh.listed around.services category)
  removedHits : report.removedHits = (s.kept category).countP fun m =>
    m.side = .hit && Refresh.listed around.services category m &&
      !confirmation.failed.contains m.domain && !confirmation.confirmed.contains m.domain
  removedPassthrough : report.removedPassthrough = (s.kept category).countP fun m =>
    m.side = .passthrough && Refresh.listed around.services category m &&
      !confirmation.failed.contains m.domain && confirmation.confirmed.contains m.domain
  /-- The report says whether the members differ, and then a notice was sent. -/
  changed : report.changed = true ↔
    ¬ (s.database.pair category).SameMembers (t.database.pair category)
  notified : t.notified = s.notified ++ if report.changed then [category] else []

/-- **A refresh reconciles the sets of its category** with its exclusions, the local filter and the
source. -/
theorem refresh_reconciles (healthy : s.database.Healthy)
    (exclusive : (s.database.pair category).Exclusive) (enabled : s.session.enabled = true)
    (recorded : (s.registry.strategy category).updateConfirmSet = true)
    (quiet : ∀ point, around.stopped point = false)
    (answered : s.consultKept around category = .ok confirmation) :
    ∃ report, (s.refresh around category).2 = .ok (some report) ∧
      s.Reconciles around category confirmation (s.refresh around category).1 report := by
  have going : s.Refreshable around category := ⟨enabled, quiet _, recorded⟩
  obtain ⟨changed, reported, asked, notified⟩ :=
    refresh_answered healthy.present going quiet answered
  -- The flag of the report is known from the notices: what is sent says it, and so do the members.
  have same : changed = s.changes around category := by
    have sent := (notified_refresh healthy going).symm.trans notified
    rw [List.append_cancel_left_eq] at sent
    cases known : s.changes around category <;> cases changed <;> simp [known] at sent ⊢
  have unmatched : (s.answeredReport around category confirmation changed).unmatched =
      (s.kept category).countP (!Refresh.listed around.services category ·) :=
    List.countP_eq_length_filter.symm
  have escalated : (s.answeredReport around category confirmation changed).escalated =
      (s.kept category).countP (Refresh.listed around.services category) :=
    List.countP_eq_length_filter.symm
  refine ⟨_, reported, ?_⟩
  exact {
    hits := fun name score => score?_hit_refresh healthy going quiet answered
    passthroughs := fun name score =>
      score?_passthrough_refresh healthy exclusive going quiet answered
    others := fun other different =>
      (refresh_reaches_all s around category).trail.pair_eq fun _ _ allowed equal =>
        different (equal.symm.trans (category_of_refreshes allowed))
    asked := ⟨s.kept category, (s.kept category).filter (Refresh.listed around.services category),
      asked, fun m => mem_kept_iff, fun m => by rw [List.mem_filter, Refresh.listed_iff]⟩
    total := by
      have split := List.length_eq_length_filter_add (l := s.kept category)
        (Refresh.listed around.services category)
      rw [← List.countP_eq_length_filter, ← List.countP_eq_length_filter] at split
      rw [unmatched, escalated]
      show s.memberCount category = (s.excludedHits category).length + _ + _ + _
      rw [memberCount_eq]
      omega
    checked := by
      show s.memberCount category = _
      unfold memberCount
      rw [SortedSet.length_members, SortedSet.length_members]
    excluded := List.countP_eq_length_filter.symm
    unmatched := unmatched
    escalated := escalated
    removedHits := by
      refine (length_removals s around category confirmation .hit).trans
        (List.countP_congr fun m _ => ?_)
      cases side : m.side <;> simp [Refresh.drifted, side]
    removedPassthrough := by
      refine (length_removals s around category confirmation .passthrough).trans
        (List.countP_congr fun m _ => ?_)
      cases side : m.side <;> simp [Refresh.drifted, side]
    changed := by
      rw [sameMembers_refresh_iff healthy going, Bool.not_eq_false, ← same]
      exact Iff.rfl
    notified := notified }

/-- A category with a list file, an excluded wildcard and three hits. -/
def threeHits : State :=
  .new { Config.standard with
      categories := [{ Definition.new "av" with
        strategy := .file, excludedDomains := ["*.a.com"] }] }
    (Database.new.replace (Category.hitKey "av")
      (((SortedSet.empty.insert "x.a.com" 1).insert "b.com" 2).insert "c.com" 3))

/-- One of the hits is excluded, one is confirmed and one is not. -/
theorem refresh_reconciles_threeHits :
    threeHits.database.Healthy ∧ (threeHits.database.pair "av").Exclusive ∧
      threeHits.session.enabled = true ∧
      (threeHits.registry.strategy "av").updateConfirmSet = true ∧
      (∀ point, (oneWildcard "b.com\n").stopped point = false) ∧
      threeHits.consultKept (oneWildcard "b.com\n") "av" = .ok ⟨["b.com"], []⟩ ∧
      (threeHits.refresh (oneWildcard "b.com\n") "av").2 =
        .ok (some ⟨"av", 3, 1, 0, 2, 1, 0, true⟩) ∧
      ∃ report, (threeHits.refresh (oneWildcard "b.com\n") "av").2 = .ok (some report) ∧
        threeHits.Reconciles (oneWildcard "b.com\n") "av" ⟨["b.com"], []⟩
          (threeHits.refresh (oneWildcard "b.com\n") "av").1 report := by
  have exclusive : (threeHits.database.pair "av").Exclusive :=
    Database.exclusive_hits (fun _ => rfl) "av" _ "av"
  have enabled : threeHits.session.enabled = true := by decide +kernel
  have recorded : (threeHits.registry.strategy "av").updateConfirmSet = true := by decide +kernel
  have answered : threeHits.consultKept (oneWildcard "b.com\n") "av" = .ok ⟨["b.com"], []⟩ := by
    decide +kernel
  exact ⟨⟨rfl, rfl⟩, exclusive, enabled, recorded, fun _ => rfl, answered, by decide +kernel,
    refresh_reconciles ⟨rfl, rfl⟩ exclusive enabled recorded (fun _ => rfl) answered⟩

end State

end CategoryFilter
