/-
**A memo kept as a table of times beside a queue of keys.**

`Indexed` finds the time of a key in a hash table and keeps the keys in the order of their recording in a
queue. An expired key leaves both, the oldest key leaves both when there is no place, and a recorded key
enters both:

* `Shows`: the queue lists the keys of some recordings, and the table finds their readings.
  `Shows.forget`, `Shows.makeRoom` and `Shows.remember` say that no step leaves a key in one of the two
  only.
* `Follows.seen`, `follows_after`: the table and the queue answer every call as the memo does.
* `Memo.remembers_latest`: what is remembered after all calls, and what is answered.
-/

import CategoryFilter.Proofs.Memo.Latest

namespace CategoryFilter

/-- A memo as a hash table of times and a queue of keys, oldest first. -/
structure Memo.Indexed where
  capacity : Nat
  ttl : Nat
  times : Std.HashMap String Int
  order : List String

namespace Memo.Indexed

variable {x : Indexed} {m : Memo} {es : Log} {key name : String} {now : Int}

/-- An empty table and an empty queue, with room for one key at least. -/
def new (capacity ttl : Nat) : Indexed := ⟨max capacity 1, ttl, ∅, []⟩

/-- Take a key out of the table and out of the queue. -/
def forget (x : Indexed) (key : String) : Indexed :=
  { x with times := x.times.erase key, order := x.order.erase key }

/-- Take out the oldest key if the table is full. -/
def makeRoom (x : Indexed) : Indexed :=
  if x.capacity ≤ x.times.size then
    match x.order with
    | oldest :: rest => { x with times := x.times.erase oldest, order := rest }
    | [] => x
  else x

/-- Put a key into the table and at the end of the queue. -/
def remember (x : Indexed) (key : String) (now : Int) : Indexed :=
  { x with times := x.times.insert key now, order := x.order ++ [key] }

/-- Whether a key is fresh; if not it is recorded, and if it had expired it is taken out before. -/
def seen (x : Indexed) (key : String) (now : Int) : Indexed × Bool :=
  match x.times[key]? with
  | some recorded =>
    if (now - recorded).toNat < x.ttl then (x, true)
    else ((x.forget key).makeRoom.remember key now, false)
  | none => (x.makeRoom.remember key now, false)

/-- Forget everything. -/
def clear (x : Indexed) : Indexed :=
  { x with times := ∅, order := [] }

/-- What a call makes of the table and the queue. -/
def call (x : Indexed) : Call → Indexed
  | .seen key now => (x.seen key now).1
  | .clear => x.clear

/-- What some calls make of an empty table and an empty queue, one after the other. -/
def after (capacity ttl : Nat) (calls : List Call) : Indexed :=
  calls.foldl call (new capacity ttl)

/-! ### The table and the queue in step -/

/-- The queue lists the keys of some recordings, and the table finds their readings. -/
structure Shows (x : Indexed) (es : Log) : Prop where
  order : x.order = es.map Prod.fst
  times : ∀ key, x.times[key]? = es.lookup key

theorem lookup_without : (without key es).lookup name = if name = key then none else es.lookup name := by
  unfold without
  rw [lookup_filter (· != key)]
  by_cases same : name = key
  · rw [if_pos same, if_neg (by simpa using same)]
  · rw [if_neg same, if_pos (by simpa using same)]

theorem map_without (distinct : (es.map Prod.fst).Nodup) (key : String) :
    (without key es).map Prod.fst = (es.map Prod.fst).erase key := by
  rw [distinct.erase_eq_filter, List.filter_map]
  rfl

namespace Shows

/-- A key is in the table if it is in the queue. -/
theorem mem_times_iff (shows : x.Shows es) : key ∈ x.times ↔ key ∈ x.order := by
  rw [Std.HashMap.mem_iff_isSome_getElem?, shows.times, shows.order, List.lookup_isSome_iff, List.mem_map]
  exact exists_congr fun e => and_congr_right' (beq_iff_eq.trans eq_comm)

theorem size_eq (shows : x.Shows es) (distinct : (es.map Prod.fst).Nodup) :
    x.times.size = es.length := by
  have same : x.times.keys.Perm x.order :=
    (List.perm_ext_iff_of_nodup Std.HashMap.nodup_keys (shows.order ▸ distinct)).mpr fun _ =>
      Std.HashMap.mem_keys.trans shows.mem_times_iff
  rw [← Std.HashMap.length_keys, same.length_eq, shows.order, List.length_map]

theorem forget (shows : x.Shows es) (distinct : (es.map Prod.fst).Nodup) (key : String) :
    (x.forget key).Shows (without key es) where
  order := by
    rw [map_without distinct, ← shows.order]
    rfl
  times name := by
    show (x.times.erase key)[name]? = _
    rw [Std.HashMap.getElem?_erase, lookup_without, shows.times]
    simp only [beq_iff_eq, eq_comm (a := key)]

/-- The oldest key leaves the table with the queue. -/
theorem makeRoom (shows : x.Shows es) (distinct : (es.map Prod.fst).Nodup) :
    x.makeRoom.Shows (if x.capacity ≤ es.length then es.drop 1 else es) := by
  unfold Indexed.makeRoom
  rw [shows.size_eq distinct]
  split
  · cases es with
    | nil =>
      rw [shows.order]
      exact shows
    | cons e es =>
      obtain ⟨oldest, reading⟩ := e
      obtain ⟨absent, -⟩ := List.nodup_cons.mp distinct
      rw [shows.order]
      refine ⟨rfl, fun name => ?_⟩
      show (x.times.erase oldest)[name]? = es.lookup name
      rw [Std.HashMap.getElem?_erase, shows.times]
      by_cases same : name = oldest
      · subst same
        rw [beq_self_eq_true, if_pos rfl, lookup_eq_none_iff.mpr absent]
      · rw [if_neg fun equal => same (beq_iff_eq.mp equal).symm, lookup_cons_other same]
  · exact shows

theorem remember (shows : x.Shows es) (absent : key ∉ es.map Prod.fst) (now : Int) :
    (x.remember key now).Shows (es ++ [(key, now)]) where
  order := by
    rw [List.map_append, ← shows.order]
    rfl
  times name := by
    show (x.times.insert key now)[name]? = _
    rw [Std.HashMap.getElem?_insert, shows.times, List.lookup_append]
    by_cases same : name = key
    · subst same
      rw [beq_self_eq_true, if_pos rfl, lookup_eq_none_iff.mpr absent, List.lookup_cons_self, Option.none_or]
    · rw [if_neg fun equal => same (beq_iff_eq.mp equal).symm, lookup_cons_other same]
      exact Option.or_none.symm

end Shows

/-! ### Every call -/

/-- The table and the queue show the entries of a memo. -/
structure Follows (x : Indexed) (m : Memo) : Prop where
  room : x.capacity = m.capacity
  span : x.ttl = m.ttl
  shows : x.Shows m.entries

@[simp] theorem capacity_makeRoom (x : Indexed) : x.makeRoom.capacity = x.capacity := by
  unfold makeRoom
  repeat' split
  all_goals rfl

@[simp] theorem ttl_makeRoom (x : Indexed) : x.makeRoom.ttl = x.ttl := by
  unfold makeRoom
  repeat' split
  all_goals rfl

namespace Follows

theorem clear (follows : x.Follows m) : x.clear.Follows m.clear :=
  ⟨follows.room, follows.span, rfl, fun _ => Std.HashMap.getElem?_empty⟩

/-- Recording a key that was taken out before, or was not there. -/
theorem record (follows : x.Follows m) {y : Indexed} (room : y.capacity = x.capacity)
    (span : y.ttl = x.ttl) (shows : y.Shows (without key m.entries))
    (distinct : (m.entries.map Prod.fst).Nodup) :
    (y.makeRoom.remember key now).Follows (m.record key now) where
  room := (capacity_makeRoom y).trans (room.trans follows.room)
  span := (ttl_makeRoom y).trans (span.trans follows.span)
  shows := by
    have kept := shows.makeRoom (nodup_without distinct key)
    rw [room, follows.room] at kept
    refine kept.remember (fun listed => absent_without m.entries key ?_) now
    split at listed
    · exact ((List.drop_sublist 1 _).map Prod.fst).subset listed
    · exact listed

/-- **The table and the queue answer as the memo**, and still show its entries. -/
theorem seen (follows : x.Follows m) (distinct : (m.entries.map Prod.fst).Nodup) (key : String)
    (now : Int) :
    (x.seen key now).2 = (m.seen key now).2 ∧ (x.seen key now).1.Follows (m.seen key now).1 := by
  unfold Indexed.seen Memo.seen isFresh
  rw [follows.shows.times key, follows.span]
  cases found : m.entries.lookup key with
  | none =>
    have same : without key m.entries = m.entries := without_of_absent (lookup_eq_none_iff.mp found)
    have found : m.recordedAt? key = none := found
    rw [found]
    exact ⟨rfl, follows.record rfl rfl (same.symm ▸ follows.shows) distinct⟩
  | some recorded =>
    have found : m.recordedAt? key = some recorded := found
    rw [found]
    by_cases fresh : (now - recorded).toNat < m.ttl
    · simp only [fresh, if_true, decide_true]
      exact ⟨trivial, follows⟩
    · simp only [fresh, if_false, decide_false]
      exact ⟨rfl, follows.record rfl rfl (follows.shows.forget distinct key) distinct⟩

end Follows

/-- **After all calls the table and the queue show the memo**, which lists the latest recordings. -/
theorem follows_after (capacity ttl : Nat) (calls : List Call) :
    (after capacity ttl calls).Follows (History.after capacity ttl calls).memo := by
  have start : (new capacity ttl).Follows (Memo.new capacity ttl) :=
    ⟨rfl, rfl, rfl, fun _ => Std.HashMap.getElem?_empty⟩
  refine (List.foldl_rel (r := fun (x : Indexed) (h : History) =>
    x.Follows h.memo ∧ h.memo.Recalls capacity ttl h.log) ⟨start, recalls_new capacity ttl⟩
      fun c _ x h both => ?_).1
  refine ⟨?_, History.recalls_call both.2 c⟩
  cases c with
  | seen key now => exact (both.1.seen both.2.distinct key now).2
  | clear => exact both.1.clear

/-- The table and the queue hold the keys that a memo remembers, and answer as it does. -/
structure InStep (x : Indexed) (m : Memo) : Prop where
  once : x.order.Nodup
  held : ∀ key, key ∈ x.times ↔ key ∈ x.order
  keys : x.order.reverse = m.keys
  size : x.times.size = m.size
  answers : ∀ key now, (x.seen key now).2 = (m.seen key now).2

theorem Follows.inStep (follows : x.Follows m) (distinct : (m.entries.map Prod.fst).Nodup) :
    x.InStep m where
  once := follows.shows.order ▸ distinct
  held _ := follows.shows.mem_times_iff
  keys := by rw [follows.shows.order, Memo.keys, List.map_reverse]
  size := follows.shows.size_eq distinct
  answers key now := (follows.seen distinct key now).1

end Memo.Indexed

/-- **A memo remembers the latest recordings and answers by them**: the keys that were recorded last since
it was cleared, as many as it has room for, each until its last recording is too long ago. Kept as a table
and a queue it does the same, and neither of the two ever holds a key that the other one does not. -/
theorem Memo.remembers_latest (capacity ttl : Nat) (calls : List Call) :
    (History.after capacity ttl calls).memo.Answers (max capacity 1) ttl
        (History.after capacity ttl calls).log ∧
      (Indexed.after capacity ttl calls).InStep (History.after capacity ttl calls).memo :=
  have recalls := History.recalls_after capacity ttl calls
  ⟨recalls.answers, (Indexed.follows_after capacity ttl calls).inStep recalls.distinct⟩

end CategoryFilter
