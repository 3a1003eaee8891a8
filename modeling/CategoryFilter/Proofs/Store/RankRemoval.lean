/-
**A removal by rank, for every two indices.**

The rank of an entry is the number of entries before it, by score and at equal scores by the bytes of the
members. A start index before the first entry means the first one, and a stop index after the last entry the
last one:

* `rank_eq_length`: a set lists an entry in the place that is its rank.
* `ranks_eq_filter`, `removeRanks_eq_filter`: the entries that a removal takes out, and those it leaves.
* `Exact`: no step of the arithmetic leaves the signed 64-bit numbers, and the removal asks for a positive
  number of ranks from a first one on.
* `removes_between`: a removal on a database.
-/

import CategoryFilter.Proofs.Store.Execution
import CategoryFilter.Proofs.Store.Scores

namespace CategoryFilter

namespace SortedSet

variable {s : SortedSet} {e : Entry} {start stop : Int64}

/-! ### Ranks -/

/-- The rank of an entry: the number of entries before it. -/
def rank (s : SortedSet) (e : Entry) : Nat :=
  s.entries.countP fun x => decide (x.ByteBefore e)

/-- The entries before an entry are those listed before it. -/
theorem rank_eq_length {before after : List Entry} (split : s.entries = before ++ e :: after) :
    s.rank e = before.length := by
  have ranked := s.ranked
  rw [split] at ranked
  obtain ⟨-, later, earlier⟩ := List.pairwise_append.mp ranked
  have all : before.countP (fun x => decide (x.ByteBefore e)) = before.length :=
    List.countP_eq_length.mpr fun x there =>
      decide_eq_true (Entry.byteBefore_iff.mpr (earlier x there e List.mem_cons_self))
  have none : (e :: after).countP (fun x => decide (x.ByteBefore e)) = 0 := by
    refine List.countP_eq_zero.mpr fun x there counted => ?_
    have back := Entry.byteBefore_iff.mp (of_decide_eq_true counted)
    rcases List.mem_cons.mp there with rfl | there
    · exact Entry.Before.irrefl x back
    · exact Entry.Before.irrefl e (((List.pairwise_cons.mp later).1 x there).trans back)
  rw [rank, split, List.countP_append, all, none, Nat.add_zero]

/-- The rank of an entry lies between those that a start and a stop index mean. -/
def Between (s : SortedSet) (start stop : Int64) (e : Entry) : Prop :=
  (if start < 0 then max (s.size + start.toInt) 0 else start.toInt) ≤ s.rank e ∧
    s.rank e ≤ if stop < 0 then s.size + stop.toInt else stop.toInt

instance (s : SortedSet) (start stop : Int64) (e : Entry) : Decidable (s.Between start stop e) :=
  inferInstanceAs (Decidable (_ ∧ _))

/-- No rank is below zero, so that the first one need not be cut there. -/
theorem between_iff : s.Between start stop e ↔
    fromEnd s.size start ≤ s.rank e ∧ s.rank e ≤ fromEnd s.size stop := by
  unfold Between fromEnd
  refine and_congr_left' ?_
  split <;> omega

/-- **A removal takes out the entries with a rank between the two that its indices mean.** -/
theorem ranks_eq_filter (countable : s.size < countBound) (start stop : Int64) :
    s.ranks start stop = s.entries.filter fun e => decide (s.Between start stop e) := by
  rw [ranks_eq countable]
  refine slice_eq_filter fun before e after split => ?_
  rw [decide_eq_decide, between_iff, rank_eq_length split]

/-- **A removal leaves all other entries**, with their scores and in their order. -/
theorem removeRanks_eq_filter (countable : s.size < countBound) (start stop : Int64) :
    s.removeRanks start stop = s.filter fun e => decide (¬ s.Between start stop e) := by
  refine eq_of_mem_iff fun e => ?_
  show _ ↔ e ∈ s.entries.filter _
  rw [← score?_eq_some_iff, score?_removeRanks, ranks_eq_filter countable, List.mem_filter,
    decide_eq_true_iff]
  split
  · next removed =>
    refine iff_of_false (Option.some_ne_none _).symm fun ⟨listed, kept⟩ => kept ?_
    obtain ⟨other, there, same⟩ := List.mem_map.mp removed
    obtain ⟨there, between⟩ := List.mem_filter.mp there
    rw [← List.inj_on_of_nodup_map s.unique there listed same]
    exact of_decide_eq_true between
  · next kept =>
    rw [score?_eq_some_iff, and_iff_left_of_imp]
    exact fun listed between =>
      kept (List.mem_map_of_mem (List.mem_filter.mpr ⟨listed, decide_eq_true between⟩))

/-! ### The arithmetic of a removal -/

/-- No step of the arithmetic of a removal leaves the signed 64-bit numbers. What is asked of a set that has
some of the ranks is a positive number of ranks, from a first one on that is not negative. -/
structure Exact (size : Nat) (start stop : Int64) : Prop where
  counted : (Int64.ofNat size).toInt = size
  fromStart : start < 0 → (Int64.ofNat size + start).toInt = size + start.toInt
  fromStop : stop < 0 → (Int64.ofNat size + stop).toInt = size + stop.toInt
  highest : (Int64.ofNat size - 1).toInt = size - 1
  span : ∀ {first last}, firstRank (Int64.ofNat size) start = first →
    lastRank (Int64.ofNat size) stop = last → first ≤ last →
      (last - first).toInt = last.toInt - first.toInt ∧
        (last - first + 1).toInt = last.toInt - first.toInt + 1 ∧ 0 ≤ first ∧ 0 < last - first + 1

theorem exact_of_countable {size : Nat} (countable : size < countBound) (start stop : Int64) :
    Exact size start stop where
  counted := toInt_ofNat countable
  fromStart negative := toInt_countFromEnd countable (negative_iff.mp negative)
  fromStop negative := toInt_countFromEnd countable (negative_iff.mp negative)
  highest := toInt_lastRank countable
  span {first last} firstIs lastIs ordered := by
    have low := toInt_firstRank countable start
    have high := toInt_lastRank_of countable stop
    rw [firstIs] at low
    rw [lastIs] at high
    rw [Int64.le_iff_toInt_le] at ordered
    have difference := toInt_rankDifference (by omega) ordered (by omega)
    have number : (last - first + 1).toInt = last.toInt - first.toInt + 1 :=
      toInt_rankCount (by omega) ordered (by omega)
    refine ⟨difference, number, Int64.le_iff_toInt_le.mpr ?_, Int64.lt_iff_toInt_lt.mpr ?_⟩
    · show (0 : Int) ≤ _
      omega
    · show (0 : Int) < _
      omega

end SortedSet

/-! ### A removal on a database -/

namespace Database

variable {db : Database} {key : String}

/-- The entries with a rank between those that two indices mean were removed from one set and counted. -/
structure RanksRemoved (db : Database) (key : String) (start stop : Int64) (count : Nat)
    (after : Database) : Prop where
  count : count = (db.setAt key).entries.countP fun e => decide ((db.setAt key).Between start stop e)
  kept : (after.setAt key).entries =
    (db.setAt key).entries.filter fun e => decide (¬ (db.setAt key).Between start stop e)
  others : ∀ other, other ≠ key → after.setAt other = db.setAt other
  rest : after.version = db.version ∧ after.settings = db.settings ∧ after.guarded = db.guarded

/-- **A removal by rank takes out what its two indices mean, and nothing else**, whatever the indices are. -/
theorem removes_between (healthy : db.Healthy) (countable : (db.setAt key).size < SortedSet.countBound)
    (start stop : Int64) :
    SortedSet.Exact (db.setAt key).size start stop ∧
      ∃ count after, execute (removeRanks key start stop) db = (.ok count, after) ∧
        db.RanksRemoved key start stop count after := by
  refine ⟨SortedSet.exact_of_countable countable start stop, _, _, execute_removeRanks healthy start stop,
    ?_, ?_, fun other different => ?_, rfl, rfl, rfl⟩
  · rw [SortedSet.ranks_eq_filter countable, List.countP_eq_length_filter]
  · rw [setAt_replace, if_pos rfl, SortedSet.removeRanks_eq_filter countable]
    rfl
  · rw [setAt_replace, if_neg different]

/-- Five members, three of them at one score, and a member of another set. -/
def tiedScores : Database :=
  { version := 1
    sets := some ⟨[("k",
        ((((SortedSet.empty.insert "b" 2).insert "d" 7).insert "a" 2).insert "e" 9).insert "c" 2),
      ("other", SortedSet.empty.insert "a" 1)]⟩
    settings := some []
    guarded := [] }

/-- Everything but the entry with the highest score is removed, by a start index as low as there is. -/
theorem removes_between_lowest :
    tiedScores.Healthy ∧ (tiedScores.setAt "k").size < SortedSet.countBound ∧
      SortedSet.Exact (tiedScores.setAt "k").size Int64.minValue (-2) ∧
      ∃ after, execute (removeRanks "k" Int64.minValue (-2)) tiedScores = (.ok 4, after) ∧
        tiedScores.RanksRemoved "k" Int64.minValue (-2) 4 after ∧
        (after.setAt "k").entries = [⟨"e", 9⟩] := by
  have healthy : tiedScores.Healthy := ⟨rfl, rfl⟩
  have countable : (tiedScores.setAt "k").size < SortedSet.countBound := by decide +kernel
  obtain ⟨exact, count, after, done, removed⟩ := removes_between healthy countable Int64.minValue (-2)
  have four : count = 4 := removed.count.trans (by decide +kernel)
  subst four
  exact ⟨healthy, countable, exact, after, done, removed, removed.kept.trans (by decide +kernel)⟩

end Database

end CategoryFilter
