/-
**The store refines a map of finite maps.**

A `Board` gives each key a finite map from members to scores. A command concerns the map under one key, and
a database `Follows` a board if the set under each key shows the map there:

* `setAt_execute_action`: a command leaves the sets under all other keys alone, whatever the database.
* `execute_action`: in a database that follows a board, a command answers as the board does, and the two
  still agree.
* `answers_eq_map`: so do the commands of any sequence.
* `Board.countable_of_size`: the only condition is met by every sequence of fewer than `2 ^ 63` commands.
-/

import CategoryFilter.Proofs.Store.Membership
import CategoryFilter.Proofs.Store.Scores
import CategoryFilter.Store.Schema

namespace CategoryFilter

/-! ### Commands -/

/-- What can be done with one set. -/
inductive SetOperation where
  /-- Add a member or set its score. -/
  | add (score : Score) (member : String)
  /-- Remove a member. -/
  | remove (member : String)
  /-- Look up the score of a member. -/
  | lookup (member : String)
  /-- Count the members. -/
  | size
  /-- List the members. -/
  | members
  /-- List the entries with a score between two bounds. -/
  | range (lowest highest : Score)
  /-- Remove the members between two ranks. -/
  | removeRanks (start stop : Int64)
  /-- Delete the set. -/
  | delete

/-- An operation on the set under a key. -/
structure Command where
  key : String
  operation : SetOperation

/-- What a command answers. -/
inductive Answer where
  | flag (holds : Bool)
  | score (found : Option Score)
  | count (number : Nat)
  | members (names : List String)
  | entries (listed : List Entry)

/-- A command as an action on the database. -/
def Command.action (c : Command) : Action Answer :=
  match c.operation with
  | .add score member => do return .flag (← Database.insert c.key score member)
  | .remove member => do return .flag (← Database.erase c.key member)
  | .lookup member => do return .score (← Database.score? c.key member)
  | .size => do return .count (← Database.size c.key)
  | .members => do return .members (← Database.members c.key)
  | .range lowest highest => do return .entries (← Database.range c.key lowest highest)
  | .removeRanks start stop => do return .count (← Database.removeRanks c.key start stop)
  | .delete => do return .flag (← Database.delete c.key)

/-- What some commands answer, one after the other. -/
def Database.answers (db : Database) : List Command → List (Except StorageError Answer)
  | [] => []
  | c :: cs => (execute c.action db).1 :: (execute c.action db).2.answers cs

/-! ### Boards -/

/-- What an operation answers about a map, and the map that it leaves. -/
def SetOperation.onMap (f : Scores) : SetOperation → Answer × Scores
  | .add score member => (.flag (decide (member ∉ f)), f.insert member score)
  | .remove member => (.flag (decide (member ∈ f)), f.erase member)
  | .lookup member => (.score (f.lookup member), f)
  | .size => (.count f.size, f)
  | .members => (.members (f.ranking.map Entry.member), f)
  | .range lowest highest => (.entries (f.range lowest highest), f)
  | .removeRanks start stop => (.count (f.between start stop).length, f.withoutRanks start stop)
  | .delete => (.flag (decide (f.size ≠ 0)), ∅)

/-- A finite map under each key. -/
abbrev Board := String → Scores

namespace Board

/-- The board without members. -/
def empty : Board := fun _ => ∅

/-- The board after a command, which changes the map under its key only. -/
def after (b : Board) (c : Command) : Board :=
  Function.update b c.key (c.operation.onMap (b c.key)).2

/-- What some commands answer on a board, one after the other. -/
def answers (b : Board) : List Command → List Answer
  | [] => []
  | c :: cs => (c.operation.onMap (b c.key)).1 :: (b.after c).answers cs

/-- The members that are ranked for a removal can be counted in signed 64-bit numbers. -/
def CountsFor (f : Scores) : SetOperation → Prop
  | .removeRanks _ _ => f.size < SortedSet.countBound
  | _ => True

/-- Each removal of ranks in a sequence meets members that can be counted. -/
def Countable (b : Board) : List Command → Prop
  | [] => True
  | c :: cs => CountsFor (b c.key) c.operation ∧ (b.after c).Countable cs

end Board

/-! ### Sizes of maps -/

theorem Scores.size_insert_le (f : Scores) (member : String) (score : Score) :
    Scores.size (f.insert member score) ≤ f.size + 1 := by
  have inside : (f.insert member score).keys ⊆ insert member f.keys := fun name listed =>
    Finset.mem_insert.mpr ((Finmap.mem_insert.mp (Finmap.mem_keys.mp listed)).imp_right
      Finmap.mem_keys.mpr)
  exact (Finset.card_le_card inside).trans (Finset.card_insert_le _ _)

theorem Scores.size_erase_le (f : Scores) (member : String) :
    Scores.size (f.erase member) ≤ f.size := by
  unfold Scores.size
  rw [Finmap.keys_erase]
  exact Finset.card_erase_le

theorem Scores.size_withoutRanks_le (f : Scores) (start stop : Int64) :
    (f.withoutRanks start stop).size ≤ f.size := by
  unfold withoutRanks
  induction f.between start stop generalizing f with
  | nil => exact Nat.le_refl _
  | cons e es ih => exact (ih _).trans (size_erase_le f e.member)

theorem SetOperation.size_onMap_le (f : Scores) (op : SetOperation) :
    (op.onMap f).2.size ≤ f.size + 1 := by
  cases op with
  | add score member => exact f.size_insert_le member score
  | remove member => exact Nat.le_succ_of_le (f.size_erase_le member)
  | removeRanks start stop => exact Nat.le_succ_of_le (f.size_withoutRanks_le start stop)
  | delete => exact Nat.zero_le _
  | _ => exact Nat.le_succ _

/-- **Short sequences can be counted.** -/
theorem Board.countable_of_size {b : Board} {commands : List Command} (most : Nat)
    (small : ∀ key, (b key).size ≤ most) (short : most + commands.length ≤ SortedSet.countBound) :
    b.Countable commands := by
  induction commands generalizing b most with
  | nil => trivial
  | cons c cs ih =>
    rw [List.length_cons] at short
    refine ⟨?_, ih (most + 1) (fun key => ?_) (by omega)⟩
    · have bound := small c.key
      unfold CountsFor
      split
      · omega
      · trivial
    · unfold after
      by_cases same : key = c.key
      · subst same
        rw [Function.update_self]
        exact (SetOperation.size_onMap_le _ _).trans (Nat.succ_le_succ (small _))
      · rw [Function.update_of_ne same]
        exact Nat.le_succ_of_le (small key)

/-! ### Commands on a database -/

namespace Database

variable {db : Database} {b : Board} {key other : String}

theorem execute_range (present : db.sets.isSome = true) (lowest highest : Score) :
    execute (range key lowest highest) db = (.ok ((db.setAt key).range lowest highest), db) :=
  execute_bind_ok (execute_readSets present)

theorem setAt_replace_other (different : other ≠ key) (set : SortedSet) :
    (db.replace key set).setAt other = db.setAt other := by
  rw [setAt_replace, if_neg different]

/-- **A command leaves the sets under all other keys alone**, also if it fails. -/
theorem setAt_execute_action (c : Command) (db : Database) (different : other ≠ c.key) :
    (execute c.action db).2.setAt other = db.setAt other := by
  obtain ⟨key, op⟩ := c
  have different : other ≠ key := different
  cases op with
  | add score member =>
    show (execute (insert key score member >>= _) db).2.setAt other = _
    rw [execute_map_snd]
    by_cases accepted : db.Accepts member
    · rw [execute_insert accepted]
      exact setAt_replace_other different _
    · rw [execute_insert_refused accepted]
  | remove member =>
    show (execute (erase key member >>= _) db).2.setAt other = _
    rw [execute_map_snd]
    by_cases accepted : db.Accepts member
    · rw [execute_erase accepted, setAt_discard, if_neg different]
    · rw [execute_erase_refused accepted]
  | removeRanks start stop =>
    show (execute (removeRanks key start stop >>= _) db).2.setAt other = _
    rw [execute_map_snd]
    rcases execute_removeRanks_cases db key start stop with same | cut
    · rw [same]
    · rw [cut, setAt_replace_other different]
  | delete =>
    show (execute (delete key >>= _) db).2.setAt other = _
    rw [execute_map_snd]
    rcases execute_delete_cases db key with same | cleared
    · rw [same]
    · rw [cleared, setAt_replace_other different]
  | lookup member =>
    show (execute (score? key member >>= _) db).2.setAt other = _
    rw [execute_map_snd]
    exact congrArg (·.setAt other) (execute_reading _ db)
  | size =>
    show (execute (size key >>= _) db).2.setAt other = _
    rw [execute_map_snd]
    exact congrArg (·.setAt other) (execute_reading _ db)
  | members =>
    show (execute (members key >>= _) db).2.setAt other = _
    rw [execute_map_snd]
    exact congrArg (·.setAt other) (execute_reading _ db)
  | range lowest highest =>
    show (execute (range key lowest highest >>= _) db).2.setAt other = _
    rw [execute_map_snd]
    exact congrArg (·.setAt other) (execute_reading _ db)

/-- The set under each key shows the map of a board there. -/
structure Follows (db : Database) (b : Board) : Prop where
  healthy : db.Healthy
  shows : ∀ key, (db.setAt key).Shows (b key)

/-- A change of one set changes one map. -/
theorem Follows.change {after : Database} {f : Scores} (follows : db.Follows b)
    (healthy : after.Healthy) (set : SortedSet → SortedSet)
    (changed : ∀ other, after.setAt other = if other = key then set (db.setAt other) else db.setAt other)
    (shows : (set (db.setAt key)).Shows f) : after.Follows (Function.update b key f) := by
  refine ⟨healthy, fun other => ?_⟩
  rw [changed]
  by_cases same : other = key
  · subst same
    rw [if_pos rfl, Function.update_self]
    exact shows
  · rw [if_neg same, Function.update_of_ne same]
    exact follows.shows other

theorem Follows.replace {f : Scores} (follows : db.Follows b) {set : SortedSet} (shows : set.Shows f) :
    (db.replace key set).Follows (Function.update b key f) :=
  follows.change (follows.healthy.replace key set) (fun _ => set)
    (fun other => setAt_replace db key other set) shows

theorem Follows.discard {f : Scores} {name : String} (follows : db.Follows b)
    (shows : ((db.setAt key).erase name).Shows f) :
    (db.discard key name).Follows (Function.update b key f) :=
  have healthy : (db.discard key name).Healthy :=
    ⟨sets_discard follows.healthy.present key name,
      (guarded_discard db key name).trans follows.healthy.unguarded⟩
  follows.change healthy (·.erase name) (fun other => setAt_discard db key other name) shows

/-- **A command answers as on the board that the database follows**, and leaves both in agreement. -/
theorem execute_action {c : Command} (follows : db.Follows b)
    (countable : Board.CountsFor (b c.key) c.operation) :
    ∃ after, execute c.action db = (.ok (c.operation.onMap (b c.key)).1, after) ∧
      after.Follows (b.after c) := by
  obtain ⟨key, op⟩ := c
  have healthy := follows.healthy
  have shows := follows.shows key
  -- What only looks at the set leaves the board as it is.
  have still : db.Follows (Function.update b key (b key)) := by
    rwa [Function.update_eq_self]
  cases op with
  | add score member =>
    refine ⟨_, (execute_bind_ok (execute_insert (healthy.accepts member) score)).trans ?_,
      follows.replace shows.insert⟩
    rw [shows.contains_eq, ← decide_not]
    rfl
  | remove member =>
    refine ⟨_, (execute_bind_ok (execute_erase (healthy.accepts member))).trans ?_,
      follows.discard shows.erase⟩
    rw [shows.contains_eq]
    rfl
  | lookup member =>
    refine ⟨db, (execute_bind_ok (execute_score? healthy.present)).trans ?_, still⟩
    rw [shows]
    rfl
  | size =>
    refine ⟨db, (execute_bind_ok (execute_size healthy.present)).trans ?_, still⟩
    rw [shows.size_eq]
    rfl
  | members =>
    refine ⟨db, (execute_bind_ok (execute_members healthy.present)).trans ?_, still⟩
    rw [shows.members_eq]
    rfl
  | range lowest highest =>
    refine ⟨db, (execute_bind_ok (execute_range healthy.present lowest highest)).trans ?_, still⟩
    rw [shows.range_eq]
    rfl
  | removeRanks start stop =>
    refine ⟨_, (execute_bind_ok (execute_removeRanks healthy start stop)).trans ?_,
      follows.replace (shows.removeRanks countable)⟩
    rw [shows.ranks_eq countable]
    rfl
  | delete =>
    refine ⟨_, (execute_bind_ok (execute_delete healthy key)).trans ?_,
      follows.replace SortedSet.Shows.empty⟩
    rw [shows.isEmpty_eq, ← decide_not]
    rfl

/-! ### Sequences of commands -/

theorem Follows.answers_eq {commands : List Command} (follows : db.Follows b)
    (countable : b.Countable commands) :
    db.answers commands = (b.answers commands).map .ok := by
  induction commands generalizing db b with
  | nil => rfl
  | cons c cs ih =>
    obtain ⟨after, run, still⟩ := execute_action follows countable.1
    show (execute c.action db).1 :: (execute c.action db).2.answers cs = _
    rw [run, ih still countable.2]
    rfl

/-- An empty database follows the empty board. -/
theorem follows_empty (healthy : db.Healthy) (blank : ∀ key, db.setAt key = .empty) :
    db.Follows Board.empty :=
  ⟨healthy, fun key => blank key ▸ SortedSet.Shows.empty⟩

/-- **Every answer of the store is that of the map of maps.** Its listings are in rank order, with every
member once, and a command on one key changes the set under no other. Ranks are signed 64-bit numbers, so
sets are taken to have fewer than `2 ^ 63` members where some are removed by rank. -/
theorem answers_eq_map {commands : List Command} (healthy : db.Healthy)
    (blank : ∀ key, db.setAt key = .empty) (countable : Board.empty.Countable commands) :
    db.answers commands = (Board.empty.answers commands).map .ok ∧ (∀ f : Scores, f.RankOrder) ∧
      ∀ (c : Command) (db : Database) (other : String), other ≠ c.key →
        (execute c.action db).2.setAt other = db.setAt other :=
  ⟨(follows_empty healthy blank).answers_eq countable, Scores.rankOrder,
    fun c db _ different => setAt_execute_action c db different⟩

/-- Two names with one score, one of them scored again, and the lowest rank removed. -/
def someCommands : List Command :=
  [⟨"k", .add 5 "b"⟩, ⟨"k", .add 5 "a"⟩, ⟨"j", .add 7 "a"⟩, ⟨"k", .add (-1) "b"⟩,
    ⟨"k", .removeRanks 0 (-2)⟩, ⟨"k", .members⟩, ⟨"j", .range 9 7⟩]

theorem answers_someCommands :
    new.Healthy ∧ (∀ key, new.setAt key = .empty) ∧ Board.empty.Countable someCommands ∧
      new.answers someCommands = (Board.empty.answers someCommands).map .ok := by
  have healthy : new.Healthy := ⟨rfl, rfl⟩
  have blank : ∀ key, new.setAt key = .empty := fun _ => rfl
  have countable : Board.empty.Countable someCommands :=
    Board.countable_of_size 0 (fun _ => Nat.le_refl _) (by decide)
  exact ⟨healthy, blank, countable, (answers_eq_map healthy blank countable).1⟩

end Database

end CategoryFilter
