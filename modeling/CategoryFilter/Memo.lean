/-
The memo of recent detections.

It remembers a bounded number of keys with the time of their recording. A key is fresh for a fixed
time after that; asking does not prolong it. A key that is not fresh is recorded anew, as the newest,
and the oldest key makes room when the memo is full. Times are in milliseconds and may go back: a
clock behind the recording counts as no time passed.
-/

namespace CategoryFilter

/-- Remembered keys with the time of their recording, oldest first. -/
structure Memo where
  capacity : Nat
  ttl : Nat
  entries : List (String × Int)
deriving Repr, DecidableEq

namespace Memo

/-- An empty memo, with room for one key at least. -/
def new (capacity ttl : Nat) : Memo :=
  ⟨max capacity 1, ttl, []⟩

/-- A thousand keys for ten seconds. -/
def standard : Memo :=
  new 1000 10000

/-- The time a key was recorded. -/
def recordedAt? (m : Memo) (key : String) : Option Int :=
  m.entries.lookup key

/-- Whether a key is remembered and fresh. -/
def isFresh (m : Memo) (key : String) (now : Int) : Bool :=
  match m.recordedAt? key with
  | some recorded => (now - recorded).toNat < m.ttl
  | none => false

/-- Record a key as the newest one. -/
def record (m : Memo) (key : String) (now : Int) : Memo :=
  let others := m.entries.filter fun e => e.1 != key
  let kept := if m.capacity ≤ others.length then others.drop 1 else others
  { m with entries := kept ++ [(key, now)] }

/-- Whether a key is fresh; if not it is recorded. -/
def seen (m : Memo) (key : String) (now : Int) : Memo × Bool :=
  if m.isFresh key now then (m, true) else (m.record key now, false)

/-- Forget everything. -/
def clear (m : Memo) : Memo :=
  { m with entries := [] }

/-- The number of remembered keys, those no longer fresh among them. -/
def size (m : Memo) : Nat :=
  m.entries.length

end Memo

end CategoryFilter
