/-
Opening the database at a path.

The directories above the path are made. A missing or an empty file becomes a new database; a file
with other content is refused, and so is a directory. Whatever was found is brought to the newest schema
and written back.
-/

import CategoryFilter.Files.Tree
import CategoryFilter.Store.Location
import CategoryFilter.Store.Schema

namespace CategoryFilter

/-- An open database. -/
structure Opened where
  /-- Where it is kept, unless it is kept in memory only. -/
  place : Option Place
  /-- Whether its schema was not the newest. -/
  migrated : Bool
  content : Database

namespace Opened

/-- The name of a database that is kept in memory only. -/
def memoryName : String := ":memory:"

/-- The journal that a database in a file keeps. -/
def journalMode : String := "wal"

/-- A database as it was found, brought to the newest schema. -/
def ofFound (place : Option Place) (found : Database) : Opened :=
  ⟨place, found.version < (Database.newestVersion : Int), found.migrate⟩

/-- The database that something found at a place is. -/
def database? : Option Node → Option Database
  | none => some .blank
  | some (.file content) => if content.isEmpty then some .blank else none
  | some (.database content) => some content
  | some .directory => none

/-- Write an open database back. -/
def save (t : Tree) (o : Opened) : Tree :=
  match o.place with
  | some place => t.put place (.database o.content)
  | none => t

end Opened

/-- Open the database at a path: the tree afterwards, and the open database. -/
def Tree.openDatabase (t : Tree) (path : String) : Tree × Except StorageError Opened :=
  if path = Opened.memoryName then (t, .ok (.ofFound none .blank))
  else
    match t.makeParents path with
    | .error cause => (t, .error (.io cause))
    | .ok t =>
      match t.find path with
      | .error _ => (t, .error .database)
      | .ok place =>
        match Opened.database? (t.node? place) with
        | none => (t, .error .database)
        | some found =>
          let opened := Opened.ofFound (some place) found
          (opened.save t, .ok opened)

/-- Open the database that is used unless another is named. -/
def Tree.openStandardDatabase (t : Tree) (u : UserDirectories) :
    Tree × Except StorageError Opened :=
  match u.databasePath with
  | .ok path => t.openDatabase path
  | .error cause => (t, .error cause)

end CategoryFilter
