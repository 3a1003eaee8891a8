/-
Sorted sets: members with scores, in rank order.

Entries are ranked by score, and equal scores by the order of the members. A set lists its entries in
rank order and holds each member once; both facts are part of the type, so the operations here are
the only way to make one. Ranks count from zero at the lowest entry, or back from the end when they are
negative.
-/

namespace CategoryFilter

/-- The score of a member: a time in milliseconds or any other 64-bit number. -/
abbrev Score := Int64

/-- A member with its score. -/
structure Entry where
  member : String
  score : Score
deriving Repr, DecidableEq

namespace Entry

/-- The rank order. -/
def Before (a b : Entry) : Prop :=
  a.score < b.score ∨ (a.score = b.score ∧ a.member < b.member)

instance (a b : Entry) : Decidable (a.Before b) :=
  inferInstanceAs (Decidable (_ ∨ _))

theorem Before.trans {a b c : Entry} (first : a.Before b) (second : b.Before c) : a.Before c := by
  rcases first with less | ⟨same, less⟩ <;> rcases second with less' | ⟨same', less'⟩
  · exact Or.inl (Int64.lt_trans less less')
  · exact Or.inl (same' ▸ less)
  · exact Or.inl (same ▸ less')
  · exact Or.inr ⟨same.trans same', String.lt_trans less less'⟩

theorem Before.irrefl (a : Entry) : ¬ a.Before a := by
  rintro (less | ⟨-, less⟩)
  · exact Int64.lt_irrefl less
  · exact String.lt_irrefl _ less

/-- Of two entries with different members one is before the other. -/
theorem before_or_before {a b : Entry} (different : a.member ≠ b.member) :
    a.Before b ∨ b.Before a := by
  by_cases less : a.score < b.score
  · exact Or.inl (Or.inl less)
  · by_cases greater : b.score < a.score
    · exact Or.inr (Or.inl greater)
    · have same : a.score = b.score :=
        Int64.le_antisymm (Int64.not_lt.mp greater) (Int64.not_lt.mp less)
      by_cases names : a.member < b.member
      · exact Or.inl (Or.inr ⟨same, names⟩)
      · refine Or.inr (Or.inr ⟨same.symm, ?_⟩)
        by_cases back : b.member < a.member
        · exact back
        · exact absurd (String.le_antisymm (String.not_lt.mp back) (String.not_lt.mp names)) different

/-- Put an entry in its place in a ranked list. -/
def place (e : Entry) : List Entry → List Entry
  | [] => [e]
  | x :: xs => if e.Before x then e :: x :: xs else x :: place e xs

theorem mem_place {e x : Entry} {xs : List Entry} : x ∈ place e xs ↔ x = e ∨ x ∈ xs := by
  induction xs with
  | nil => simp [place]
  | cons y ys ih =>
    unfold place
    split
    · simp
    · simp only [List.mem_cons, ih]
      exact or_left_comm

/-- Placing keeps a list ranked, if the member is new. -/
theorem pairwise_place {e : Entry} {xs : List Entry} (ranked : xs.Pairwise Before)
    (new : ∀ x ∈ xs, x.member ≠ e.member) : (place e xs).Pairwise Before := by
  induction xs with
  | nil => simp [place]
  | cons y ys ih =>
    obtain ⟨first, rest⟩ := List.pairwise_cons.mp ranked
    unfold place
    split
    · next least =>
      refine List.pairwise_cons.mpr ⟨fun z found => ?_, ranked⟩
      rcases List.mem_cons.mp found with rfl | later
      · exact least
      · exact least.trans (first z later)
    · next other =>
      refine List.pairwise_cons.mpr ⟨fun z found => ?_, ih rest fun x found =>
        new x (List.mem_cons_of_mem _ found)⟩
      rcases mem_place.mp found with rfl | later
      · exact (before_or_before (new y List.mem_cons_self)).resolve_right other
      · exact first z later

/-- Placing keeps the members of a list different, if the member is new. -/
theorem nodup_place {e : Entry} {xs : List Entry} (unique : (xs.map member).Nodup)
    (new : ∀ x ∈ xs, x.member ≠ e.member) : ((place e xs).map member).Nodup := by
  induction xs with
  | nil => simp [place]
  | cons y ys ih =>
    rw [List.map_cons, List.nodup_cons] at unique
    unfold place
    split
    · refine List.nodup_cons.mpr ⟨fun found => ?_, List.nodup_cons.mpr unique⟩
      obtain ⟨x, here, same⟩ := List.mem_map.mp found
      exact new x here same
    · refine List.nodup_cons.mpr ⟨fun found => ?_, ih unique.2 fun x found =>
        new x (List.mem_cons_of_mem _ found)⟩
      obtain ⟨x, here, same⟩ := List.mem_map.mp found
      rcases mem_place.mp here with rfl | later
      · exact new y List.mem_cons_self same.symm
      · exact unique.1 (List.mem_map.mpr ⟨x, later, same⟩)

end Entry

/-- A set of members with scores. -/
structure SortedSet where
  /-- The entries, lowest rank first. -/
  entries : List Entry
  ranked : entries.Pairwise Entry.Before
  unique : (entries.map Entry.member).Nodup
deriving DecidableEq

namespace SortedSet

instance : Repr SortedSet := ⟨fun s => reprPrec s.entries⟩

/-- The set without members. -/
def empty : SortedSet := ⟨[], List.Pairwise.nil, List.nodup_nil⟩

instance : Inhabited SortedSet := ⟨empty⟩

/-- The entries that satisfy a test. -/
def filter (s : SortedSet) (p : Entry → Bool) : SortedSet where
  entries := s.entries.filter p
  ranked := s.ranked.filter p
  unique := s.unique.sublist (List.filter_sublist.map Entry.member)

/-- The score of a member. -/
def score? (s : SortedSet) (member : String) : Option Score :=
  (s.entries.find? fun e => e.member = member).map (·.score)

def contains (s : SortedSet) (member : String) : Bool :=
  (s.score? member).isSome

/-- The set without a member. -/
def erase (s : SortedSet) (member : String) : SortedSet :=
  s.filter fun e => e.member != member

theorem ne_of_mem_erase {s : SortedSet} {member : String} {e : Entry}
    (found : e ∈ (s.erase member).entries) : e.member ≠ member := by
  simpa using (List.mem_filter.mp found).2

/-- The set with a member at a score, whatever its score was before. -/
def insert (s : SortedSet) (member : String) (score : Score) : SortedSet where
  entries := Entry.place ⟨member, score⟩ (s.erase member).entries
  ranked := Entry.pairwise_place (s.erase member).ranked fun _ found => ne_of_mem_erase found
  unique := Entry.nodup_place (s.erase member).unique fun _ found => ne_of_mem_erase found

/-- The number of members. -/
def size (s : SortedSet) : Nat :=
  s.entries.length

/-- Whether the set has no members. -/
def isEmpty (s : SortedSet) : Bool :=
  s.entries.isEmpty

/-- The members in rank order. -/
def members (s : SortedSet) : List String :=
  s.entries.map Entry.member

/-- The entries with a score between two bounds, both included, in rank order. -/
def range (s : SortedSet) (lowest highest : Score) : List Entry :=
  s.entries.filter fun e => lowest ≤ e.score && e.score ≤ highest

/-! ### Ranks -/

/-- The first rank that a start index means in a set of some size. -/
def firstRank (size start : Int64) : Int64 :=
  if start < 0 then max (size + start) 0 else start

/-- The last rank that a stop index means in a set of some size; it may lie below zero. -/
def lastRank (size stop : Int64) : Int64 :=
  if stop < 0 then size + stop else min stop (size - 1)

/-- The number of ranks from a first to a last one. -/
def rankCount (first last : Int64) : Int64 :=
  last - first + 1

/-- The set without `count` entries from rank `first` on. -/
def dropRanks (s : SortedSet) (first count : Nat) : SortedSet :=
  have sub : (s.entries.take first ++ s.entries.drop (first + count)).Sublist s.entries := by
    have tail : (s.entries.drop (first + count)).Sublist (s.entries.drop first) := by
      rw [← List.drop_drop]
      exact List.drop_sublist count _
    exact ((List.Sublist.refl _).append tail).trans (by simp)
  ⟨s.entries.take first ++ s.entries.drop (first + count), s.ranked.sublist sub,
    s.unique.sublist (sub.map Entry.member)⟩

/-- How many of a set's entries a limit lets through at most. A negative one is no limit. -/
def limitCount (size limit : Int64) : Nat :=
  if limit < 0 then size.toInt.toNat else limit.toInt.toNat

/-- The first rank and the number of ranks between a start and a stop index, if there are any. -/
def rankSpan? (size start stop : Int64) : Option (Nat × Nat) :=
  let first := firstRank size start
  let last := lastRank size stop
  if size = 0 ∨ last < first then none
  else some (first.toInt.toNat, limitCount size (rankCount first last))

/-- The entries between a start and a stop index, both included. -/
def ranks (s : SortedSet) (start stop : Int64) : List Entry :=
  match rankSpan? (Int64.ofNat s.size) start stop with
  | some (first, count) => (s.entries.drop first).take count
  | none => []

/-- The set without the entries between a start and a stop index. -/
def removeRanks (s : SortedSet) (start stop : Int64) : SortedSet :=
  match rankSpan? (Int64.ofNat s.size) start stop with
  | some (first, count) => s.dropRanks first count
  | none => s

end SortedSet

end CategoryFilter
