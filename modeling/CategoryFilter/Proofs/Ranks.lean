/-
**The entries between two ranks.**

A negative index counts back from the end of a set (`fromEnd`). A removal by rank takes out the entries
whose rank lies between the two that its indices mean (`ranks_eq`), for every two indices and every size
that the database can count: no step of its arithmetic leaves the signed 64-bit numbers. All other entries
keep their scores (`score?_removeRanks`). The lowest ranks are those from zero on (`removeRanks_lowest`).
-/

import CategoryFilter.Proofs.SortedSet

namespace CategoryFilter

/-! ### Places in a list -/

/-- The place that an index means in a list of some length: a negative one counts back from the end. -/
def fromEnd (length : Nat) (index : Int64) : Int :=
  if index < 0 then length + index.toInt else index.toInt

section Slice

variable {α : Type} {lowest highest : Int} {xs : List α}

/-- The elements whose place in a list lies between two numbers, both included. -/
def slice (lowest highest : Int) (xs : List α) : List α :=
  (xs.zipIdx.filter fun p => decide (lowest ≤ p.2 ∧ p.2 ≤ highest)).map Prod.fst

/-- The places of a list that follow `start` others. -/
theorem mem_places {start : Nat} {p : α × Nat} (listed : p ∈ xs.zipIdx start) :
    start ≤ p.2 ∧ p.2 < start + xs.length :=
  ⟨(List.mem_zipIdx listed).1, (List.mem_zipIdx listed).2.1⟩

theorem slice_eq_nil (outside : ∀ place : Nat, place < xs.length →
    ¬ (lowest ≤ place ∧ place ≤ highest)) : slice lowest highest xs = [] := by
  unfold slice
  rw [List.map_eq_nil_iff, List.filter_eq_nil_iff]
  intro p listed chosen
  have bound := mem_places listed
  exact outside p.2 (by omega) (of_decide_eq_true chosen)

/-- If the places are those of the middle one of three lists, the slice is that list. -/
theorem slice_append {before inside after : List α}
    (places : ∀ place : Nat, place < before.length + (inside.length + after.length) →
      (lowest ≤ place ∧ place ≤ highest ↔
        before.length ≤ place ∧ place < before.length + inside.length)) :
    slice lowest highest (before ++ (inside ++ after)) = inside := by
  have first : before.zipIdx.filter (fun p => decide (lowest ≤ p.2 ∧ p.2 ≤ highest)) = [] := by
    refine List.filter_eq_nil_iff.mpr fun p listed chosen => ?_
    have bound := mem_places listed
    have := (places p.2 (by omega)).mp (of_decide_eq_true chosen)
    omega
  have middle : (inside.zipIdx (0 + before.length)).filter
      (fun p => decide (lowest ≤ p.2 ∧ p.2 ≤ highest)) = inside.zipIdx (0 + before.length) := by
    refine List.filter_eq_self.mpr fun p listed => decide_eq_true ?_
    have bound := mem_places listed
    exact (places p.2 (by omega)).mpr (by omega)
  have last : (after.zipIdx (0 + before.length + inside.length)).filter
      (fun p => decide (lowest ≤ p.2 ∧ p.2 ≤ highest)) = [] := by
    refine List.filter_eq_nil_iff.mpr fun p listed chosen => ?_
    have bound := mem_places listed
    have := (places p.2 (by omega)).mp (of_decide_eq_true chosen)
    omega
  unfold slice
  rw [List.zipIdx_append, List.zipIdx_append, List.filter_append, List.filter_append, first, middle,
    last, List.nil_append, List.append_nil, List.zipIdx_map_fst]

/-- The elements in `count` places from a first one on. -/
theorem slice_eq_take {first count : Nat} (fits : first + count ≤ xs.length)
    (places : ∀ place : Nat, place < xs.length →
      (lowest ≤ place ∧ place ≤ highest ↔ first ≤ place ∧ place < first + count)) :
    slice lowest highest xs = (xs.drop first).take count := by
  have cut : xs = xs.take first ++ ((xs.drop first).take count ++ (xs.drop first).drop count) := by
    rw [List.take_append_drop, List.take_append_drop]
  conv_lhs => rw [cut]
  refine slice_append fun place inside => ?_
  simp only [List.length_take, List.length_drop] at inside ⊢
  rw [places place (by omega), Nat.min_eq_left (by omega), Nat.min_eq_left (by omega)]

/-- A slice keeps the elements that pass a test, if the test asks for their places. -/
theorem slice_eq_filter {p : α → Bool}
    (places : ∀ before e after, xs = before ++ e :: after →
      p e = decide (lowest ≤ before.length ∧ before.length ≤ highest)) :
    slice lowest highest xs = xs.filter p := by
  conv_rhs => rw [← List.zipIdx_map_fst 0 xs, List.filter_map]
  refine congrArg (List.map Prod.fst) (List.filter_congr fun q listed => ?_)
  obtain ⟨inside, here⟩ := List.getElem?_eq_some_iff.mp (List.mem_zipIdx_iff_getElem?.mp listed)
  have split : xs = xs.take q.2 ++ q.1 :: xs.drop (q.2 + 1) := by
    rw [← here, ← List.drop_eq_getElem_cons inside, List.take_append_drop]
  have length : (xs.take q.2).length = q.2 := List.length_take_of_le (Nat.le_of_lt inside)
  rw [Function.comp_apply, places _ _ _ split, length]

end Slice

namespace SortedSet

variable {s : SortedSet} {member : String} {start stop : Int64}

/-! ### The arithmetic of indices -/

/-- The database counts in signed 64-bit numbers, which are below this. -/
def countBound : Nat := 0x8000000000000000

theorem toInt_ofNat {count : Nat} (countable : count < countBound) :
    (Int64.ofNat count).toInt = count :=
  Int64.toInt_ofNat_of_lt countable

/-- The last of the lowest ranks, as a 64-bit number. -/
theorem toInt_lastRank {count : Nat} (countable : count < countBound) :
    (Int64.ofNat count - 1).toInt = (count : Int) - 1 := by
  rw [Int64.toInt_sub, toInt_ofNat countable]
  unfold countBound at countable
  exact Int.bmod_eq_of_le (by simp; omega) (by simp; omega)

theorem toInt_countFromEnd {size : Nat} (countable : size < countBound) {index : Int64}
    (negative : index.toInt < 0) : (Int64.ofNat size + index).toInt = size + index.toInt := by
  have low := index.le_toInt
  rw [Int64.toInt_add, toInt_ofNat countable]
  unfold countBound at countable
  exact Int.bmod_eq_of_le (by simp at low ⊢; omega) (by simp; omega)

theorem negative_iff {index : Int64} : index < 0 ↔ index.toInt < 0 := Int64.lt_iff_toInt_lt

theorem toInt_firstRank {size : Nat} (countable : size < countBound) (start : Int64) :
    (firstRank (Int64.ofNat size) start).toInt = max (fromEnd size start) 0 := by
  unfold firstRank fromEnd
  by_cases negative : start < 0
  · rw [if_pos negative, if_pos negative]
    have sum := toInt_countFromEnd countable (negative_iff.mp negative)
    show (if Int64.ofNat size + start ≤ 0 then (0 : Int64) else Int64.ofNat size + start).toInt = _
    have below : Int64.ofNat size + start ≤ 0 ↔ size + start.toInt ≤ 0 := by
      rw [Int64.le_iff_toInt_le, sum]
      rfl
    split
    · next low =>
      rw [Int.max_eq_right (below.mp low)]
      rfl
    · next high =>
      rw [sum, Int.max_eq_left]
      have := mt below.mpr high
      omega
  · rw [if_neg negative, if_neg negative, Int.max_eq_left]
    have := mt negative_iff.mpr negative
    omega

theorem toInt_lastRank_of {size : Nat} (countable : size < countBound) (stop : Int64) :
    (lastRank (Int64.ofNat size) stop).toInt = min (fromEnd size stop) ((size : Int) - 1) := by
  have top := toInt_lastRank countable
  unfold lastRank fromEnd
  by_cases negative : stop < 0
  · rw [if_pos negative, if_pos negative]
    have below := negative_iff.mp negative
    rw [toInt_countFromEnd countable below, Int.min_eq_left (by omega)]
  · rw [if_neg negative, if_neg negative]
    show (if stop ≤ Int64.ofNat size - 1 then stop else Int64.ofNat size - 1).toInt = _
    have below : stop ≤ Int64.ofNat size - 1 ↔ stop.toInt ≤ (size : Int) - 1 := by
      rw [Int64.le_iff_toInt_le, top]
    split
    · next low => rw [Int.min_eq_left (below.mp low)]
    · next high =>
      have := mt below.mpr high
      rw [top, Int.min_eq_right (by omega)]

theorem toInt_rankDifference {first last : Int64} (positive : 0 ≤ first.toInt)
    (ordered : first.toInt ≤ last.toInt) (inside : last.toInt + 1 < countBound) :
    (last - first).toInt = last.toInt - first.toInt := by
  unfold countBound at inside
  rw [Int64.toInt_sub]
  exact Int.bmod_eq_of_le (by simp; omega) (by simp; omega)

theorem toInt_rankCount {first last : Int64} (positive : 0 ≤ first.toInt)
    (ordered : first.toInt ≤ last.toInt) (inside : last.toInt + 1 < countBound) :
    (rankCount first last).toInt = last.toInt - first.toInt + 1 := by
  rw [rankCount, Int64.toInt_add, toInt_rankDifference positive ordered inside]
  unfold countBound at inside
  exact Int.bmod_eq_of_le (by simp; omega) (by simp; omega)

/-- The ranks between two indices, as a first rank and a number of ranks. -/
theorem rankSpan?_eq {size : Nat} (countable : size < countBound) (start stop : Int64) :
    rankSpan? (Int64.ofNat size) start stop =
      if size = 0 ∨ min (fromEnd size stop) ((size : Int) - 1) < max (fromEnd size start) 0 then none
      else some ((max (fromEnd size start) 0).toNat,
        (min (fromEnd size stop) ((size : Int) - 1) - max (fromEnd size start) 0 + 1).toNat) := by
  have zero : Int64.ofNat size = 0 ↔ size = 0 := by
    rw [← Int64.toInt_inj, toInt_ofNat countable]
    exact Int.natCast_eq_zero
  have first := toInt_firstRank countable start
  unfold rankSpan?
  dsimp only
  by_cases none : size = 0
  · rw [if_pos (Or.inl (zero.mpr none)), if_pos (Or.inl none)]
  · have last := toInt_lastRank_of countable stop
    have order : lastRank (Int64.ofNat size) stop < firstRank (Int64.ofNat size) start ↔
        min (fromEnd size stop) ((size : Int) - 1) < max (fromEnd size start) 0 := by
      rw [Int64.lt_iff_toInt_lt, first, last]
    by_cases crossed : min (fromEnd size stop) ((size : Int) - 1) < max (fromEnd size start) 0
    · rw [if_pos (Or.inr (order.mpr crossed)), if_pos (Or.inr crossed)]
    · have counted := toInt_rankCount (by omega) (by omega : (firstRank (Int64.ofNat size) start).toInt ≤
        (lastRank (Int64.ofNat size) stop).toInt) (by omega)
      have limit :
          ¬ rankCount (firstRank (Int64.ofNat size) start) (lastRank (Int64.ofNat size) stop) < 0 := by
        rw [negative_iff, counted]
        omega
      rw [if_neg (not_or.mpr ⟨mt zero.mp none, mt order.mp crossed⟩),
        if_neg (not_or.mpr ⟨none, crossed⟩), limitCount, if_neg limit, counted, first, last]

/-! ### The entries at the ranks -/

theorem ranks_sublist (start stop : Int64) : (s.ranks start stop).Sublist s.entries := by
  unfold ranks
  split
  · exact (List.take_sublist _ _).trans (List.drop_sublist _ _)
  · exact List.nil_sublist _

/-- **A removal by rank takes out what lies between the two ranks.** -/
theorem ranks_eq (countable : s.size < countBound) (start stop : Int64) :
    s.ranks start stop = slice (fromEnd s.size start) (fromEnd s.size stop) s.entries := by
  unfold ranks
  rw [rankSpan?_eq countable]
  split
  · next first count span =>
    split at span
    · cases span
    · next inside =>
      obtain ⟨filled, ordered⟩ := not_or.mp inside
      cases span
      refine (slice_eq_take ?_ fun place within => ?_).symm
      · show _ ≤ s.size
        omega
      · have within : place < s.size := within
        omega
  · next span =>
    split at span
    · next outside =>
      refine (slice_eq_nil fun place within => ?_).symm
      have within : place < s.size := within
      omega
    · cases span

theorem score?_dropRanks (first count : Nat) :
    (s.dropRanks first count).score? member =
      if member ∈ ((s.entries.drop first).take count).map Entry.member then none
      else s.score? member := by
  have cut : s.entries = s.entries.take first ++
      ((s.entries.drop first).take count ++ s.entries.drop (first + count)) := by
    rw [← List.drop_drop, List.take_append_drop, List.take_append_drop]
  have distinct := s.unique
  rw [cut, List.map_append, List.map_append] at distinct
  obtain ⟨-, distinct, apart⟩ := List.nodup_append.mp distinct
  obtain ⟨-, -, later⟩ := List.nodup_append.mp distinct
  ext score
  rw [score?_eq_some_iff]
  show _ ∈ s.entries.take first ++ s.entries.drop (first + count) ↔ _
  split
  · next removed =>
    refine iff_of_false (fun kept => ?_) (Option.some_ne_none _).symm
    rcases List.mem_append.mp kept with before | after
    · exact apart member (List.mem_map_of_mem before) member (List.mem_append_left _ removed) rfl
    · exact later member removed member (List.mem_map_of_mem after) rfl
  · next kept =>
    have absent : (⟨member, score⟩ : Entry) ∉ (s.entries.drop first).take count :=
      fun listed => kept (List.mem_map_of_mem listed)
    rw [score?_eq_some_iff, cut]
    simp only [List.mem_append, absent, false_or]
    rw [← cut]

/-- **A removal by rank removes the entries at its ranks**, and leaves the scores of all others. -/
theorem score?_removeRanks :
    (s.removeRanks start stop).score? member =
      if member ∈ (s.ranks start stop).map Entry.member then none else s.score? member := by
  unfold removeRanks ranks
  cases rankSpan? (Int64.ofNat s.size) start stop with
  | some span => exact score?_dropRanks span.1 span.2
  | none => exact (if_neg List.not_mem_nil).symm

/-! ### The lowest ranks -/

theorem rankSpan?_lowest {size count : Nat} (positive : 0 < count) (inside : count ≤ size)
    (countable : size < countBound) :
    rankSpan? (Int64.ofNat size) 0 (Int64.ofNat count - 1) = some (0, count) := by
  have stop : (Int64.ofNat count - 1).toInt = (count : Int) - 1 := toInt_lastRank (by omega)
  have low : fromEnd size 0 = 0 := rfl
  have upward : ¬ Int64.ofNat count - 1 < 0 := by
    rw [negative_iff, stop]
    omega
  have high : fromEnd size (Int64.ofNat count - 1) = (count : Int) - 1 := by
    rw [fromEnd, if_neg upward, stop]
  rw [rankSpan?_eq countable, low, high, if_neg (by omega)]
  exact congrArg some (Prod.ext rfl (by dsimp only; omega))

theorem removeRanks_lowest {count : Nat} (positive : 0 < count) (inside : count ≤ s.size)
    (countable : s.size < countBound) :
    s.removeRanks 0 (Int64.ofNat count - 1) = s.dropRanks 0 count := by
  rw [removeRanks, rankSpan?_lowest positive inside countable]

theorem length_ranks_lowest {count : Nat} (positive : 0 < count) (inside : count ≤ s.size)
    (countable : s.size < countBound) : (s.ranks 0 (Int64.ofNat count - 1)).length = count := by
  rw [ranks, rankSpan?_lowest positive inside countable]
  show ((s.entries.drop 0).take count).length = count
  rw [List.drop_zero, List.length_take]
  exact Nat.min_eq_left inside

end SortedSet

end CategoryFilter
