/-
**Migrations keep the rows, wherever they were stopped.**

A migration is committed together with its version. A run of the migrations that stops after some commits
leaves a database for which the others are still pending:

* `pending_commit`: after a commit, the migrations that were pending behind it are pending.
* `Founded.commit`: a commit keeps the rows, and gives the database the table of its version.
* `migrate_eq`: a run to the end makes the database `upToDate`.
* `migrate_interrupt`: so does a run after one that stopped.
* `openDatabase_of_find`: a database that is found at a path is migrated there.
* `migrations_preserve`: all of it, for the database that is found at a path.
-/

import CategoryFilter.Proofs.Files
import CategoryFilter.Store.Opening
import Mathlib.Logic.Function.Iterate

namespace CategoryFilter

namespace Database

variable {db : Database} {m : (Database → Database) × Nat} {more : List ((Database → Database) × Nat)}

/-- A database with the tables of all migrations up to its version. -/
structure Founded (db : Database) : Prop where
  sets : 1 ≤ db.version → db.sets.isSome
  settings : 2 ≤ db.version → db.settings.isSome

/-- A database with the newest schema, or a newer one that it had, and with the rows that it had. A table
that it had not is empty. -/
def upToDate (db : Database) : Database :=
  { db with
    version := max db.version newestVersion
    sets := some (db.sets.getD .empty)
    settings := some (db.settings.getD []) }

/-- A run of the migrations that stops after some commits. -/
def interrupt (db : Database) (commits : Nat) : Database :=
  ((pending db.version).take commits).foldl commit db

/-! ### One commit -/

/-- **After a commit, the migrations behind it are pending.** -/
theorem pending_commit (next : pending db.version = m :: more) :
    m ∈ migrations.zipIdx ∧ m.2 = db.version.toNat ∧ pending (db.commit m).version = more := by
  unfold pending at next
  have inside : db.version.toNat < migrations.zipIdx.length := by
    by_contra beyond
    rw [List.drop_eq_nil_of_le (Nat.le_of_not_lt beyond)] at next
    cases next
  rw [List.drop_eq_getElem_cons inside, List.getElem_zipIdx] at next
  obtain ⟨rfl, rfl⟩ := List.cons.inj next
  refine ⟨?_, Nat.zero_add _, ?_⟩
  · rw [← List.getElem_zipIdx inside]
    exact List.getElem_mem inside
  · have version : (db.commit (migrations[db.version.toNat], 0 + db.version.toNat)).version.toNat =
        db.version.toNat + 1 := by
      simp only [commit]
      omega
    exact congrArg (migrations.zipIdx.drop ·) version

/-- The first migration makes the table of sets, the second the table of settings. -/
theorem mem_migrations (listed : m ∈ migrations.zipIdx) :
    m = (createSets, 0) ∨ m = (createSettings, 1) := by
  simpa [migrations] using listed

/-- **A commit keeps the rows, and makes the table of its version.** -/
theorem Founded.commit (founded : db.Founded) (next : pending db.version = m :: more) :
    (db.commit m).Founded ∧ (db.commit m).upToDate = db.upToDate := by
  obtain ⟨listed, version, -⟩ := pending_commit next
  obtain ⟨sets, settings⟩ := founded
  rcases mem_migrations listed with rfl | rfl
  · have old : db.version ≤ 0 := by
      dsimp only at version
      omega
    refine ⟨⟨fun _ => rfl, fun newer => ?_⟩, ?_⟩
    · simp [Database.commit] at newer
    · have newest : max (1 : Int) newestVersion = max db.version newestVersion := by
        have : (newestVersion : Int) = 2 := rfl
        omega
      simp [Database.commit, createSets, upToDate, newest]
  · have old : db.version = 1 := by
      dsimp only at version
      omega
    refine ⟨⟨fun _ => sets (by omega), fun _ => rfl⟩, ?_⟩
    have newest : max (2 : Int) newestVersion = max db.version newestVersion := by
      have : (newestVersion : Int) = 2 := rfl
      omega
    simp [Database.commit, createSettings, upToDate, newest]

/-! ### Runs -/

theorem migrate_commit (next : pending db.version = m :: more) : (db.commit m).migrate = db.migrate := by
  obtain ⟨-, -, rest⟩ := pending_commit next
  unfold migrate
  rw [next, rest]
  rfl

/-- A database that lacks no migration is up to date. -/
theorem upToDate_of_none (founded : db.Founded) (none : pending db.version = []) : db.upToDate = db := by
  have newest : (newestVersion : Int) ≤ db.version := by
    have beyond : migrations.zipIdx.length ≤ db.version.toNat := List.drop_eq_nil_iff.mp none
    have : migrations.zipIdx.length = 2 ∧ newestVersion = 2 := ⟨rfl, rfl⟩
    omega
  obtain ⟨sets, settings⟩ := founded
  obtain ⟨tables, some⟩ := Option.isSome_iff_exists.mp (sets (Int.le_trans (by decide) newest))
  obtain ⟨texts, some'⟩ := Option.isSome_iff_exists.mp (settings newest)
  rw [upToDate, Int.max_eq_left newest, some, some', Option.getD_some, Option.getD_some, ← some, ← some']

/-- **A run to the end brings a database up to date.** -/
theorem migrate_eq (founded : db.Founded) : db.migrate = db.upToDate := by
  -- By the migrations that are pending: a commit takes the first of them away.
  generalize waiting : pending db.version = ms
  induction ms generalizing db with
  | nil => rw [upToDate_of_none founded waiting, migrate, waiting, List.foldl_nil]
  | cons m more ih =>
    obtain ⟨kept, same⟩ := founded.commit waiting
    rw [← migrate_commit waiting, ih kept (pending_commit waiting).2.2, same]

/-- **A run after one that stopped ends as one without a stop.** -/
theorem migrate_interrupt (db : Database) (commits : Nat) : (db.interrupt commits).migrate = db.migrate := by
  induction commits generalizing db with
  | zero => rfl
  | succ commits ih =>
    cases waiting : pending db.version with
    | nil => simp [interrupt, waiting]
    | cons m more =>
      have stopped : db.interrupt (commits + 1) = (db.commit m).interrupt commits := by
        simp [interrupt, waiting, (pending_commit waiting).2.2]
      rw [stopped, ih, migrate_commit waiting]

/-- So do any number of runs that stopped. -/
theorem migrate_interrupts (db : Database) (stops : List Nat) :
    (stops.foldl interrupt db).migrate = db.migrate := by
  induction stops generalizing db with
  | nil => rfl
  | cons commits stops ih => rw [List.foldl_cons, ih, migrate_interrupt]

theorem founded_upToDate (db : Database) : db.upToDate.Founded :=
  ⟨fun _ => rfl, fun _ => rfl⟩

@[simp] theorem upToDate_upToDate (db : Database) : db.upToDate.upToDate = db.upToDate := by
  simp [upToDate]

end Database

/-! ### Opening -/

namespace Opened

variable {t : Tree} {path : String} {place : Place} {db : Database}

/-- No directory holds a database. -/
theorem isDirectory_of_database? (held : database? (t.node? place) = some db) :
    t.isDirectory place = false := by
  rw [Bool.eq_false_iff, Ne, Tree.isDirectory_iff]
  intro directory
  rw [directory] at held
  cases held

/-- What is put in place of a database is there. -/
theorem node?_put_self (held : database? (t.node? place) = some db) (node : Node) :
    (t.put place node).node? place = some node := by
  have below : ¬place.isEmpty = true := by
    intro root
    rw [Tree.node?, if_pos root] at held
    cases held
  rw [Tree.node?_put, if_neg below, if_pos rfl]

/-- **A database that is found at a path is migrated there.** -/
theorem openDatabase_of_find (named : path ≠ memoryName) (found : t.find path = .ok place)
    (held : database? (t.node? place) = some db) :
    t.openDatabase path = (t.put place (.database db.migrate), .ok (ofFound (some place) db)) := by
  unfold Tree.openDatabase
  rw [if_neg named, Tree.makeParents_of_find found]
  simp only [found, held]
  rfl

/-- So is one that is put in its place. -/
theorem openDatabase_put (named : path ≠ memoryName) (found : t.find path = .ok place)
    (held : database? (t.node? place) = some db) (other : Database) :
    (t.put place (.database other)).openDatabase path =
      (t.put place (.database other.migrate), .ok (ofFound (some place) other)) := by
  have there : database? ((t.put place (.database other)).node? place) = some other := by
    rw [node?_put_self held]
    rfl
  rw [openDatabase_of_find named (Tree.find_put (isDirectory_of_database? held) _ found) there, Tree.put_put]

/-- **Migrations keep the rows, wherever they were stopped.** A database of any version that has the tables of
the migrations up to it gets the newest version unless its own is newer, both tables, and no other rows. If it
is found at a path, an opening after any number of runs that stopped leaves and returns the same as one
without, and an opening of what it left changes nothing. -/
theorem migrations_preserve (named : path ≠ memoryName) (found : t.find path = .ok place)
    (held : database? (t.node? place) = some db) (founded : db.Founded) :
    ∃ after : Database, db.migrate = after ∧
      after.version = max db.version 2 ∧
      after.sets = some (db.sets.getD .empty) ∧
      after.settings = some (db.settings.getD []) ∧
      after.guarded = db.guarded ∧
      t.openDatabase path =
        (t.put place (.database after), .ok ⟨some place, db.version < 2, after⟩) ∧
      (∀ stops : List Nat,
        let stopped := stops.foldl Database.interrupt db
        (t.put place (.database stopped)).openDatabase path =
          (t.put place (.database after), .ok ⟨some place, stopped.version < 2, after⟩)) ∧
      ∀ openings : Nat,
        let left := (fun t => (t.openDatabase path).1)^[openings] (t.put place (.database after))
        left = t.put place (.database after) ∧
          left.openDatabase path = (left, .ok ⟨some place, false, after⟩) := by
  have again : (t.put place (.database db.upToDate)).openDatabase path =
      (t.put place (.database db.upToDate), .ok ⟨some place, false, db.upToDate⟩) := by
    have newest : ¬db.upToDate.version < (Database.newestVersion : Int) :=
      Int.not_lt.mpr (Int.le_max_right ..)
    rw [openDatabase_put named found held, ofFound, Database.migrate_eq (Database.founded_upToDate db),
      Database.upToDate_upToDate, decide_eq_false newest]
  refine ⟨db.upToDate, Database.migrate_eq founded, rfl, rfl, rfl, rfl, ?_, fun stops => ?_,
    fun openings => ?_⟩
  · rw [openDatabase_of_find named found held, ofFound, Database.migrate_eq founded]
    rfl
  · dsimp only
    rw [openDatabase_put named found held, ofFound, Database.migrate_interrupts, Database.migrate_eq founded]
    rfl
  · have left : (fun t => (t.openDatabase path).1)^[openings] (t.put place (.database db.upToDate)) =
        t.put place (.database db.upToDate) :=
      Function.iterate_fixed (congrArg Prod.fst again) openings
    dsimp only
    rw [left]
    exact ⟨rfl, again⟩

/-- A database of a negative version that has a row is found by a relative path. A run stopped after its first
commit. -/
theorem migrations_preserve_negative :
    let rows := Sets.empty.update "category:games:hit:domain" (SortedSet.empty.insert "a.com" 5)
    let db : Database := ⟨-3, some rows, none, ["b.com"]⟩
    let t : Tree := ⟨[(["s.db", "data"], .database db), (["data"], .directory)], ["data"]⟩
    let opened := (t.openDatabase "../data/s.db").1
    t.find "../data/s.db" = .ok ["s.db", "data"] ∧ db.Founded ∧
      opened = t.put ["s.db", "data"] (.database ⟨2, some rows, some [], ["b.com"]⟩) ∧
      db.interrupt 1 = ⟨1, some rows, none, ["b.com"]⟩ ∧
      ((t.put ["s.db", "data"] (.database (db.interrupt 1))).openDatabase "../data/s.db").1 = opened ∧
      (opened.openDatabase "../data/s.db").1 = opened := by
  intro rows db t opened
  have named : "../data/s.db" ≠ memoryName := by decide
  have found : t.find "../data/s.db" = .ok ["s.db", "data"] := by decide +kernel
  have held : database? (t.node? ["s.db", "data"]) = some db := rfl
  have founded : db.Founded :=
    ⟨fun newer => absurd newer (by decide), fun newer => absurd newer (by decide)⟩
  obtain ⟨⟨_, _, _, _⟩, -, rfl, rfl, rfl, rfl, first, stopped, again⟩ :=
    migrations_preserve named found held founded
  have left : opened = t.put ["s.db", "data"] (.database ⟨2, some rows, some [], ["b.com"]⟩) :=
    congrArg Prod.fst first
  refine ⟨found, founded, left, rfl, ?_, ?_⟩
  · rw [left]
    exact congrArg Prod.fst (stopped [1])
  · rw [left]
    exact congrArg Prod.fst (again 0).2

end Opened

end CategoryFilter
