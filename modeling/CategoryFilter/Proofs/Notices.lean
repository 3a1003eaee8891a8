/-
**A notice for every change of a category's members, and for nothing else.**

* `notices_match_changes`: from disjoint pairs and without storage failures, a call sends exactly one
  notice for each category whose members differ afterwards. A detection sends none; a confirmation
  sends those of its report, in ascending order; the other calls send one only for a change.
-/

import CategoryFilter.Proofs.Examiner.RefreshNotice
import CategoryFilter.Store.Schema

namespace CategoryFilter.State

variable {s : State}

/-- Some member of a category is in different sets in two states. -/
def Changed (s t : State) (category : String) : Prop :=
  ¬ (s.database.pair category).SameMembers (t.database.pair category)

/-- Which notices a call may send: a detection none, a confirmation those of its report, in ascending
order, and the other calls none without a change. -/
def MaySend (s : State) (sent : List String) : Call → Prop
  | .detect _ _ => sent = []
  | .confirm around =>
    sent = (s.confirmQueued around.services around.clock).2.changed ∧ sent.Pairwise (· < ·)
  | c => ∀ category ∈ sent, s.Changed (s.perform c) category

/-- A notice for a change of one category is right if no other category changes. -/
theorem notices_of_one {t : State} {name : String} {sent : List String}
    (own : sent.Sublist [name]) (changed : name ∈ sent ↔ s.Changed t name)
    (kept : ∀ category, name ≠ category → t.database.pair category = s.database.pair category) :
    sent.Nodup ∧ ∀ category, category ∈ sent ↔ s.Changed t category := by
  refine ⟨(List.nodup_singleton name).sublist own, fun category => ?_⟩
  by_cases same : name = category
  · rwa [← same]
  · have unsent : category ∉ sent := fun listed =>
      same (List.mem_singleton.mp (own.subset listed)).symm
    exact iff_of_false unsent (not_not_intro (.of_eq (kept category same)))

/-- The notices of a call. -/
theorem exists_notices (healthy : s.database.Healthy)
    (exclusive : ∀ category, (s.database.pair category).Exclusive) (c : Call) :
    ∃ sent, (s.perform c).notified = s.notified ++ sent ∧ sent.Nodup ∧
      (∀ category, s.Changed (s.perform c) category → category ∈ sent) ∧ s.MaySend sent c := by
  cases c with
  | detect around origin =>
    refine ⟨[], ?_, List.nodup_nil, fun category changed => ?_, rfl⟩
    · rw [List.append_nil]
      exact notified_detect s around origin
    · exact absurd (sameMembers_detect (exclusive category) around origin) changed
  | confirm around =>
    obtain ⟨notices, ascending, silent⟩ :=
      notified_confirmQueued healthy around.services around.clock
    refine ⟨_, notices, ?_, fun category changed => ?_, rfl, ascending⟩
    · refine ascending.imp fun less same => ?_
      rw [same] at less
      exact String.lt_irrefl _ less
    · by_contra unsent
      exact changed (silent category unsent)
  | refresh around name =>
    obtain ⟨sent, notices, own, changed⟩ := exists_notice_refresh healthy around name
    have kept : ∀ category, name ≠ category →
        (s.refresh around name).1.database.pair category = s.database.pair category := by
      intro category other
      refine (refresh_reaches_all s around name).trail.pair_eq fun _ _ allowed same => other ?_
      exact (category_of_refreshes allowed).symm.trans same
    obtain ⟨once, exact⟩ := notices_of_one own changed kept
    exact ⟨sent, notices, once, fun category => (exact category).mpr,
      fun category => (exact category).mp⟩
  | refreshAll around =>
    have distinct : s.registry.activeCategories.Nodup := Text.nodup_sortNames _
    obtain ⟨sent, notices, listed, changed⟩ := exists_notices_refreshEach around _ s healthy distinct
    exact ⟨sent, notices, distinct.sublist listed, fun category => (changed category).mpr,
      fun category => (changed category).mp⟩
  | deactivate name =>
    obtain ⟨sent, notices, own, changed⟩ := exists_notice_deactivate healthy name
    have kept : ∀ category, name ≠ category →
        (s.deactivate name).1.database.pair category = s.database.pair category := by
      intro category other
      refine (deactivate_reaches s name).trail.pair_eq ?_
      rintro _ _ ⟨side, rfl⟩
      exact other
    obtain ⟨once, exact⟩ := notices_of_one own changed kept
    exact ⟨sent, notices, once, fun category => (exact category).mpr,
      fun category => (exact category).mp⟩

/-- **No missed and no spurious notice.** From pairs without a common name and without storage failures,
a call sends one notice for each category whose members differ afterwards, at most one for any, and no
others than it may send. -/
theorem notices_match_changes (healthy : s.database.Healthy)
    (exclusive : ∀ category, (s.database.pair category).Exclusive) (c : Call) :
    ∃ sent, (s.perform c).notified = s.notified ++ sent ∧
      (∀ category, sent.count category ≤ 1) ∧
      (∀ category, s.Changed (s.perform c) category → sent.count category = 1) ∧
      s.MaySend sent c := by
  obtain ⟨sent, notices, once, changed, allowed⟩ := exists_notices healthy exclusive c
  refine ⟨sent, notices, fun category => List.nodup_iff_count_le_one.mp once category,
    fun category different => ?_, allowed⟩
  exact List.count_eq_one_of_mem once (changed category different)

/-- A database in which one category has a hit. -/
def oneHit : State :=
  .new .standard (Database.new.replace (Category.hitKey "games") (.insert .empty "a.com" 1))

/-- The deactivation of that category sends its notice. -/
theorem notices_match_changes_oneHit :
    oneHit.database.Healthy ∧ (∀ category, (oneHit.database.pair category).Exclusive) ∧
      (oneHit.perform (.deactivate "games")).notified = ["games"] ∧
      ∃ sent, (oneHit.perform (.deactivate "games")).notified = oneHit.notified ++ sent ∧
        (∀ category, sent.count category ≤ 1) ∧
        (∀ category, oneHit.Changed (oneHit.perform (.deactivate "games")) category →
          sent.count category = 1) ∧
        oneHit.MaySend sent (.deactivate "games") := by
  have exclusive : ∀ category, (oneHit.database.pair category).Exclusive := by
    rintro category name ⟨-, there⟩
    have none : oneHit.database.pair category .passthrough = .empty := by
      show (Database.new.replace _ _).setAt (Category.passthroughKey category) = _
      rw [Database.setAt_replace, if_neg (Category.hitKey_ne_passthroughKey _ _).symm]
      rfl
    rw [none, SortedSet.contains_empty] at there
    cases there
  exact ⟨⟨rfl, rfl⟩, exclusive, by decide +kernel,
    notices_match_changes ⟨rfl, rfl⟩ exclusive (.deactivate "games")⟩

end CategoryFilter.State
