/-
**A cut keeps the newest entries of a pair of sets.**

* `Newest`: the greatest entries of a set, by score and at equal scores by the bytes of the members. The
  entries of one confirmation share a score, so that the members decide between them at the limit.
* `lost_newest`: a cut drops the lowest ranks and keeps the others.
* `trims_to_newest`: a cut of both sets of a pair, and of what it left once more.
-/

import CategoryFilter.Proofs.Store.Execution
import CategoryFilter.Proofs.Store.Scores

namespace CategoryFilter

theorem Entry.Before.score_le {a b : Entry} (before : a.Before b) : a.score ≤ b.score := by
  rcases before with less | ⟨same, -⟩
  · exact Int64.le_of_lt less
  · exact Int64.le_of_eq same

namespace SortedSet

variable {s t : SortedSet} {e kept : Entry} {limit : Nat}

/-- The entries of a set that another one does not have. -/
def lost (s t : SortedSet) : List Entry :=
  s.entries.filter fun e => decide (e ∉ t.entries)

/-- A set has the greatest entries of another one, by score and at equal scores by the bytes of the members:
as many as a limit allows, with their scores and in their order. -/
structure Newest (t s : SortedSet) (limit : Nat) : Prop where
  size : t.size = min s.size limit
  within : t.Within s
  greatest : ∀ kept ∈ t.entries, ∀ e ∈ s.lost t, e.ByteBefore kept
  later : ∀ kept ∈ t.entries, ∀ e ∈ s.lost t, e.score ≤ kept.score

/-- A cut drops the lowest ranks. -/
theorem lost_newest (s : SortedSet) (limit : Nat) :
    s.lost (s.newest limit) = s.entries.take (s.size - limit) := by
  have distinct := s.nodup_entries
  rw [← List.take_append_drop (s.size - limit) s.entries] at distinct
  obtain ⟨-, -, apart⟩ := List.nodup_append.mp distinct
  rw [lost, entries_newest]
  conv_lhs => arg 2; rw [← List.take_append_drop (s.size - limit) s.entries]
  rw [List.filter_append, List.filter_eq_self.mpr, List.filter_eq_nil_iff.mpr, List.append_nil]
  · exact fun e there gone => of_decide_eq_true gone there
  · exact fun e there => decide_eq_true fun again => apart e there e again rfl

theorem length_lost_newest (s : SortedSet) (limit : Nat) :
    (s.lost (s.newest limit)).length = s.size - limit := by
  rw [lost_newest, List.length_take]
  exact Nat.min_eq_left (Nat.sub_le _ _)

/-- The dropped entries are before the kept ones. -/
theorem before_of_lost (gone : e ∈ s.lost (s.newest limit)) (there : kept ∈ (s.newest limit).entries) :
    e.Before kept := by
  have ranked := s.ranked
  rw [← List.take_append_drop (s.size - limit) s.entries] at ranked
  rw [lost_newest] at gone
  rw [entries_newest] at there
  exact (List.pairwise_append.mp ranked).2.2 e gone kept there

/-- **A cut to a limit leaves the greatest entries.** -/
theorem newest_newest (s : SortedSet) (limit : Nat) : (s.newest limit).Newest s limit where
  size := size_newest limit
  within := dropRanks_within _ _
  greatest _ there _ gone := Entry.byteBefore_iff.mpr (before_of_lost gone there)
  later _ there _ gone := (before_of_lost gone there).score_le

end SortedSet

/-! ### Both sets of a pair -/

namespace Database

open Category (SetKeys)

variable {db : Database} {keys : SetKeys}

/-- Two sets were cut to their newest entries, and nothing else was changed. -/
structure Trimmed (db : Database) (keys : SetKeys) (limit evicted : Nat) (after : Database) : Prop where
  hits : (after.setAt keys.hit).Newest (db.setAt keys.hit) limit
  passthroughs : (after.setAt keys.passthrough).Newest (db.setAt keys.passthrough) limit
  evicted : evicted = ((db.setAt keys.hit).lost (after.setAt keys.hit)).length +
    ((db.setAt keys.passthrough).lost (after.setAt keys.passthrough)).length
  others : ∀ key, key ≠ keys.hit → key ≠ keys.passthrough → after.setAt key = db.setAt key
  rest : after.version = db.version ∧ after.settings = db.settings ∧ after.guarded = db.guarded

theorem rest_cutTo (db : Database) (key : String) (limit : Nat) :
    (db.cutTo key limit).version = db.version ∧ (db.cutTo key limit).settings = db.settings ∧
      (db.cutTo key limit).guarded = db.guarded := by
  unfold cutTo
  split <;> exact ⟨rfl, rfl, rfl⟩

theorem trimmed_cutTo (db : Database) (different : keys.hit ≠ keys.passthrough) (limit : Nat) :
    db.Trimmed keys limit ((db.setAt keys.hit).size - limit + ((db.setAt keys.passthrough).size - limit))
      ((db.cutTo keys.hit limit).cutTo keys.passthrough limit) := by
  have hits : ((db.cutTo keys.hit limit).cutTo keys.passthrough limit).setAt keys.hit =
      (db.setAt keys.hit).newest limit := by
    rw [setAt_cutTo, if_neg different, setAt_cutTo, if_pos rfl]
  have passthroughs : ((db.cutTo keys.hit limit).cutTo keys.passthrough limit).setAt keys.passthrough =
      (db.setAt keys.passthrough).newest limit := by
    rw [setAt_cutTo, if_pos rfl, setAt_cutTo, if_neg different.symm]
  obtain ⟨version, settings, guarded⟩ := rest_cutTo (db.cutTo keys.hit limit) keys.passthrough limit
  obtain ⟨version', settings', guarded'⟩ := rest_cutTo db keys.hit limit
  refine ⟨?_, ?_, ?_, fun key first second => ?_, version.trans version', settings.trans settings',
    guarded.trans guarded'⟩
  · rw [hits]
    exact SortedSet.newest_newest _ limit
  · rw [passthroughs]
    exact SortedSet.newest_newest _ limit
  · rw [hits, passthroughs, SortedSet.length_lost_newest, SortedSet.length_lost_newest]
  · rw [setAt_cutTo, if_neg second, setAt_cutTo, if_neg first]

/-- **A cut of a pair keeps the newest entries of each set** and counts the others; a second one changes
nothing. -/
theorem trims_to_newest (healthy : db.Healthy) (keys : SetKeys) (different : keys.hit ≠ keys.passthrough)
    (hits : (db.setAt keys.hit).size < SortedSet.countBound)
    (passthroughs : (db.setAt keys.passthrough).size < SortedSet.countBound) (limit : Nat) :
    ∃ evicted after, execute (Classification.trim keys limit) db = (.ok evicted, after) ∧
      db.Trimmed keys limit evicted after ∧
      execute (Classification.trim keys limit) after = (.ok 0, after) := by
  have trimmed := trimmed_cutTo db different limit
  refine ⟨_, _, execute_trim healthy keys different hits passthroughs limit, trimmed, ?_⟩
  have fewerHits := trimmed.hits.size
  have fewerPassthroughs := trimmed.passthroughs.size
  exact execute_trim_fits ((healthy.cutTo _ _).cutTo _ _).present keys (by omega) (by omega)

/-- Four hits at one score, an older and a newer passthrough, and the hits of another category. -/
def oneDrain : Database :=
  { version := 1
    sets := some ⟨[(Category.hitKey "games",
        (((SortedSet.empty.insert "c.com" 5).insert "a.com" 5).insert "d.com" 5).insert "b.com" 5),
      (Category.passthroughKey "games", (SortedSet.empty.insert "z.com" 9).insert "y.com" 4),
      (Category.hitKey "news", SortedSet.empty.insert "a.com" 1)]⟩
    settings := some []
    guarded := [] }

/-- Of the hits at one score those with the greater members are kept, and the newer passthrough fits in. -/
theorem trims_to_newest_oneDrain :
    oneDrain.Healthy ∧ Category.hitKey "games" ≠ Category.passthroughKey "games" ∧
      (oneDrain.setAt (Category.hitKey "games")).size < SortedSet.countBound ∧
      (oneDrain.setAt (Category.passthroughKey "games")).size < SortedSet.countBound ∧
      ∃ after, execute (Classification.trim (Category.setKeys "games") 2) oneDrain = (.ok 2, after) ∧
        oneDrain.Trimmed (Category.setKeys "games") 2 2 after ∧
        (after.setAt (Category.hitKey "games")).entries = [⟨"c.com", 5⟩, ⟨"d.com", 5⟩] ∧
        execute (Classification.trim (Category.setKeys "games") 2) after = (.ok 0, after) := by
  have healthy : oneDrain.Healthy := ⟨rfl, rfl⟩
  have different : Category.hitKey "games" ≠ Category.passthroughKey "games" := by decide +kernel
  have hits : (oneDrain.setAt (Category.hitKey "games")).size < SortedSet.countBound := by decide +kernel
  have passthroughs : (oneDrain.setAt (Category.passthroughKey "games")).size < SortedSet.countBound := by
    decide +kernel
  obtain ⟨evicted, after, done, trimmed, again⟩ :=
    trims_to_newest healthy (Category.setKeys "games") different hits passthroughs 2
  have answer : (execute (Classification.trim (Category.setKeys "games") 2) oneDrain).1.toOption =
      some 2 := by decide +kernel
  have kept : ((execute (Classification.trim (Category.setKeys "games") 2) oneDrain).2.setAt
      (Category.hitKey "games")).entries = [⟨"c.com", 5⟩, ⟨"d.com", 5⟩] := by decide +kernel
  rw [done] at answer kept
  cases answer
  exact ⟨healthy, different, hits, passthroughs, after, done, trimmed, kept, again⟩

end Database

end CategoryFilter
