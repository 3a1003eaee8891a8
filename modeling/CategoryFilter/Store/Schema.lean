/-
Migrations of the schema.

A database records the version of its schema. Opening it applies, in order, each migration above that
version; a version below zero counts as zero, and one at or above the newest is left alone. A migration
creates its table unless it is there and then records its own version, both in one step.
-/

import CategoryFilter.Store.Database

namespace CategoryFilter.Database

/-- Create the table of sorted sets, unless it is there. -/
def createSets (db : Database) : Database :=
  { db with sets := some (db.sets.getD .empty) }

/-- Create the table of settings, unless it is there. -/
def createSettings (db : Database) : Database :=
  { db with settings := some (db.settings.getD []) }

/-- The migrations; each brings the schema to its place in the list, counted from one. -/
def migrations : List (Database → Database) :=
  [createSets, createSettings]

/-- The newest version of the schema. -/
def newestVersion : Nat :=
  migrations.length

/-- Apply one migration and record its version. -/
def commit (db : Database) (migration : (Database → Database) × Nat) : Database :=
  { migration.1 db with version := migration.2 + 1 }

/-- The migrations that a version still lacks, each with its place in the list. -/
def pending (version : Int) : List ((Database → Database) × Nat) :=
  migrations.zipIdx.drop version.toNat

/-- Bring a database to the newest schema. -/
def migrate (db : Database) : Database :=
  (pending db.version).foldl commit db

/-- A database without tables, as a new file is. -/
def blank : Database :=
  ⟨0, none, none, []⟩

/-- A new database with its tables. -/
def new : Database :=
  migrate blank

end CategoryFilter.Database
