/-
**A memo holds the latest recordings.**

A call that does not find its key fresh records it. A `Log` lists what was recorded since the memo was last
cleared, newest first, and `latest` keeps the last recording of each key:

* `take_latest_cons`: a recording comes first; one place less is left for the other keys, so the oldest of
  them goes if the places do not suffice.
* `Recalls.record`, `History.recalls_after`: after all calls a memo lists the latest recordings, as many as
  it has places.
* `Recalls.isFresh_iff`, `Recalls.answers`: it answers by the reading of the clock at the last recording of
  a key.
-/

import CategoryFilter.Memo
import CategoryFilter.Proofs.Lookup

namespace CategoryFilter.Memo

/-- Recordings of keys, each with the reading of the clock. -/
abbrev Log := List (String × Int)

variable {m : Memo} {key name : String} {now reading : Int} {log : Log} {capacity ttl places : Nat}

/-! ### The latest recordings -/

/-- The recordings of all keys but one. -/
def without (key : String) (log : Log) : Log :=
  log.filter fun e => e.1 != key

theorem without_cons_same : without key ((key, now) :: log) = without key log :=
  List.filter_cons_of_neg (by simp)

theorem without_cons_other (other : name ≠ key) :
    without key ((name, now) :: log) = (name, now) :: without key log :=
  List.filter_cons_of_pos (bne_iff_ne.mpr other)

theorem without_of_absent (absent : key ∉ log.map Prod.fst) : without key log = log :=
  List.filter_eq_self.mpr fun _ listed => bne_iff_ne.mpr fun same =>
    absent (same ▸ List.mem_map_of_mem listed)

theorem mem_without {e : String × Int} : e ∈ without key log ↔ e ∈ log ∧ e.1 ≠ key := by
  rw [without, List.mem_filter, bne_iff_ne]

theorem absent_without (log : Log) (key : String) : key ∉ (without key log).map Prod.fst := fun listed => by
  obtain ⟨e, there, same⟩ := List.mem_map.mp listed
  exact (mem_without.mp there).2 same

theorem nodup_without (distinct : (log.map Prod.fst).Nodup) (key : String) :
    ((without key log).map Prod.fst).Nodup :=
  distinct.sublist (List.filter_sublist.map Prod.fst)

/-- The last recording of each key, in a log that lists the newest first. -/
def latest : Log → Log
  | [] => []
  | (key, reading) :: earlier => (key, reading) :: without key (latest earlier)

/-- Each key is listed once. -/
theorem nodup_latest (log : Log) : ((latest log).map Prod.fst).Nodup := by
  induction log with
  | nil => exact List.nodup_nil
  | cons r earlier ih =>
    exact List.nodup_cons.mpr ⟨absent_without _ r.1, nodup_without ih r.1⟩

/-- Each key is listed with its last reading. -/
theorem mem_latest_iff : (key, reading) ∈ latest log ↔ log.lookup key = some reading := by
  induction log with
  | nil => exact iff_of_false List.not_mem_nil (Option.some_ne_none _).symm
  | cons r earlier ih =>
    obtain ⟨name, last⟩ := r
    rw [latest, List.mem_cons, mem_without, ih]
    by_cases same : key = name
    · subst same
      simp [eq_comm]
    · simp [lookup_cons_other same, same]

theorem latest_of_distinct (distinct : (log.map Prod.fst).Nodup) : latest log = log := by
  induction log with
  | nil => rfl
  | cons r earlier ih =>
    obtain ⟨absent, distinct⟩ := List.nodup_cons.mp distinct
    rw [latest, ih distinct, without_of_absent absent]

/-- Of the first `places + 1` recordings the removal of a key leaves the first `places` of those that it
leaves of all. -/
theorem take_without (distinct : (log.map Prod.fst).Nodup) (key : String) (places : Nat) :
    (without key (log.take (places + 1))).take places = (without key log).take places := by
  induction log generalizing places with
  | nil => rfl
  | cons e log ih =>
    obtain ⟨name, reading⟩ := e
    obtain ⟨absent, distinct⟩ := List.nodup_cons.mp distinct
    rw [List.take_succ_cons]
    by_cases same : name = key
    · subst same
      have absentFirst : name ∉ (log.take places).map Prod.fst := fun listed =>
        absent (((List.take_sublist places log).map Prod.fst).subset listed)
      rw [without_cons_same, without_cons_same, without_of_absent absent,
        without_of_absent absentFirst, List.take_take, Nat.min_self]
    · rw [without_cons_other same, without_cons_other same]
      cases places with
      | zero => rfl
      | succ places => rw [List.take_succ_cons, List.take_succ_cons, ih distinct places]

/-- **A recording comes first**, and one place less is left for the other keys. -/
theorem take_latest_cons (places : Nat) :
    (latest ((key, now) :: log)).take (places + 1) =
      (key, now) :: (without key ((latest log).take (places + 1))).take places := by
  rw [latest, List.take_succ_cons, take_without (nodup_latest log)]

/-! ### One recording -/

/-- The remembered keys, newest first. -/
def keys (m : Memo) : List String :=
  m.entries.reverse.map Prod.fst

/-- If there is no place for another key the oldest one goes. -/
theorem reverse_kept {es : Log} (fits : es.length ≤ places + 1) :
    (if places + 1 ≤ es.length then es.drop 1 else es).reverse = es.reverse.take places := by
  split
  · next full => rw [List.reverse_drop, Nat.le_antisymm fits full, Nat.add_sub_cancel]
  · next free =>
    rw [List.take_of_length_le]
    rw [List.length_reverse]
    omega

theorem reverse_record (room : m.capacity = places + 1) (fits : m.entries.length ≤ m.capacity)
    (key : String) (now : Int) :
    (m.record key now).entries.reverse =
      (key, now) :: (without key m.entries.reverse).take places := by
  have shorter : (without key m.entries).length ≤ places + 1 :=
    Nat.le_trans (List.length_filter_le _ _) (room ▸ fits)
  have shown : (m.record key now).entries =
      (if m.capacity ≤ (without key m.entries).length then (without key m.entries).drop 1
        else without key m.entries) ++ [(key, now)] := rfl
  rw [shown, room, List.reverse_append, reverse_kept shorter, without, without, List.filter_reverse]
  rfl

/-- A memo lists the latest recordings, as many as it has places. -/
structure Recalls (m : Memo) (capacity ttl : Nat) (log : Log) : Prop where
  room : m.capacity = max capacity 1
  span : m.ttl = ttl
  listed : m.entries.reverse = (latest log).take (max capacity 1)

theorem recalls_new (capacity ttl : Nat) : (new capacity ttl).Recalls capacity ttl [] where
  room := rfl
  span := rfl
  listed := List.take_nil.symm

namespace Recalls

theorem clear (recalls : m.Recalls capacity ttl log) : m.clear.Recalls capacity ttl [] where
  room := recalls.room
  span := recalls.span
  listed := List.take_nil.symm

theorem size_le (recalls : m.Recalls capacity ttl log) : m.size ≤ max capacity 1 := by
  unfold size
  rw [← List.length_reverse, recalls.listed]
  exact List.length_take_le _ _

/-- **A recording leaves the latest recordings**, the new one among them. -/
theorem record (recalls : m.Recalls capacity ttl log) (key : String) (now : Int) :
    (m.record key now).Recalls capacity ttl ((key, now) :: log) where
  room := recalls.room
  span := recalls.span
  listed := by
    obtain ⟨places, room⟩ : ∃ places, max capacity 1 = places + 1 :=
      Nat.exists_eq_add_one_of_ne_zero (by omega)
    have fits : m.entries.length ≤ m.capacity := recalls.room ▸ recalls.size_le
    rw [reverse_record (recalls.room.trans room) fits, recalls.listed, room, take_latest_cons]

theorem keys_eq (recalls : m.Recalls capacity ttl log) :
    m.keys = ((latest log).take (max capacity 1)).map Prod.fst := by
  rw [keys, recalls.listed]

/-- Each key is remembered once. -/
theorem distinct (recalls : m.Recalls capacity ttl log) : (m.entries.map Prod.fst).Nodup := by
  rw [← List.nodup_reverse, ← List.map_reverse, recalls.listed]
  exact (nodup_latest log).sublist ((List.take_sublist _ _).map Prod.fst)

/-- A remembered key has the reading of its last recording. -/
theorem recordedAt?_eq_some_iff (recalls : m.Recalls capacity ttl log) :
    m.recordedAt? key = some reading ↔ key ∈ m.keys ∧ log.lookup key = some reading := by
  rw [recordedAt?, ← mem_latest_iff, ← mem_latest_iff, latest_of_distinct recalls.distinct,
    ← List.mem_reverse, keys, recalls.listed]
  constructor
  · exact fun there => ⟨List.mem_map_of_mem there, List.mem_of_mem_take there⟩
  · rintro ⟨there, last⟩
    obtain ⟨e, listed, rfl⟩ := List.mem_map.mp there
    rwa [List.inj_on_of_nodup_map (nodup_latest log) last (List.mem_of_mem_take listed) rfl]

/-- **A key is fresh if it is remembered and its last recording is not too long ago.** -/
theorem isFresh_iff (recalls : m.Recalls capacity ttl log) :
    m.isFresh key now = true ↔
      key ∈ m.keys ∧ ∃ reading, log.lookup key = some reading ∧ max (now - reading) 0 < ttl := by
  unfold isFresh
  rw [recalls.span]
  cases found : m.recordedAt? key with
  | none =>
    refine iff_of_false Bool.false_ne_true fun ⟨there, reading, last, _⟩ => ?_
    rw [recalls.recordedAt?_eq_some_iff.mpr ⟨there, last⟩] at found
    cases found
  | some recorded =>
    obtain ⟨there, last⟩ := recalls.recordedAt?_eq_some_iff.mp found
    rw [last, and_iff_right there, decide_eq_true_iff]
    constructor
    · exact fun fresh => ⟨recorded, rfl, by omega⟩
    · rintro ⟨_, same, fresh⟩
      cases same
      omega

end Recalls

theorem seen_snd (m : Memo) (key : String) (now : Int) : (m.seen key now).2 = m.isFresh key now := by
  unfold seen
  split
  · next fresh => rw [fresh]
  · next stale => rw [Bool.eq_false_iff.mpr stale]

theorem seen_of_fresh (fresh : (m.seen key now).2 = true) : (m.seen key now).1 = m := by
  rw [seen_snd] at fresh
  rw [seen, if_pos fresh]

theorem seen_of_stale (stale : (m.seen key now).2 = false) :
    (m.seen key now).1 = m.record key now := by
  rw [seen_snd] at stale
  rw [seen, if_neg (Bool.eq_false_iff.mp stale)]

/-- What a memo with room for some keys remembers of a log, and how it answers. -/
structure Answers (m : Memo) (room ttl : Nat) (log : Log) : Prop where
  keys : m.keys = ((latest log).take room).map Prod.fst
  size : m.size = m.keys.length
  bounded : m.size ≤ room
  fresh : ∀ key now, (m.seen key now).2 = true ↔
    key ∈ m.keys ∧ ∃ reading, log.lookup key = some reading ∧ max (now - reading) 0 < ttl
  idle : ∀ key now, (m.seen key now).2 = true → (m.seen key now).1 = m

theorem Recalls.answers (recalls : m.Recalls capacity ttl log) :
    m.Answers (max capacity 1) ttl log where
  keys := recalls.keys_eq
  size := by rw [Memo.keys, List.length_map, List.length_reverse, Memo.size]
  bounded := recalls.size_le
  fresh key now := by rw [seen_snd, recalls.isFresh_iff]
  idle _ _ := seen_of_fresh

/-! ### All calls -/

/-- A call of a memo. -/
inductive Call where
  | seen (key : String) (now : Int)
  | clear
deriving Repr, DecidableEq

/-- A memo with what was recorded since it was last cleared, newest first. -/
structure History where
  memo : Memo
  log : Log

namespace History

/-- A new memo, without recordings. -/
def start (capacity ttl : Nat) : History := ⟨new capacity ttl, []⟩

/-- What a call makes of a memo. A key that was not fresh is recorded. -/
def call (h : History) : Call → History
  | .seen key now =>
    ⟨(h.memo.seen key now).1, if (h.memo.seen key now).2 then h.log else (key, now) :: h.log⟩
  | .clear => ⟨h.memo.clear, []⟩

/-- What some calls make of a new memo, one after the other. -/
def after (capacity ttl : Nat) (calls : List Call) : History :=
  calls.foldl call (start capacity ttl)

theorem recalls_call {h : History} (recalls : h.memo.Recalls capacity ttl h.log) (c : Call) :
    (h.call c).memo.Recalls capacity ttl (h.call c).log := by
  cases c with
  | seen key now =>
    show (h.memo.seen key now).1.Recalls capacity ttl (if _ then _ else _)
    cases answer : (h.memo.seen key now).2 with
    | true => rwa [seen_of_fresh answer]
    | false =>
      rw [seen_of_stale answer]
      exact recalls.record key now
  | clear => exact recalls.clear

/-- **After all calls a memo lists the latest recordings.** -/
theorem recalls_after (capacity ttl : Nat) (calls : List Call) :
    (after capacity ttl calls).memo.Recalls capacity ttl (after capacity ttl calls).log :=
  List.foldlRecOn calls call (motive := fun h => h.memo.Recalls capacity ttl h.log)
    (recalls_new capacity ttl) fun _ recalls c _ => recalls_call recalls c

end History

end CategoryFilter.Memo
