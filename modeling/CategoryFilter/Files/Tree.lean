/-
A tree of directories and files.

A path is followed name by name: each step needs a directory to start from, and two dots lead up, also
from the root, where they lead nowhere. Directories are made with all that are missing above them.
-/

import CategoryFilter.Files.Path
import CategoryFilter.Store.Database

namespace CategoryFilter

/-- What a place of the tree holds. -/
inductive Node where
  | directory
  | file (content : ByteArray)
  /-- A file with a database in it. -/
  | database (content : Database)

def Node.isDirectory : Node → Bool
  | .directory => true
  | _ => false

/-- The names that lead from the root to a place, the last one first. -/
abbrev Place := List String

/-- The places that hold something, and the working directory. -/
structure Tree where
  nodes : List (Place × Node)
  working : Place

namespace Tree

/-- The tree of a root alone. -/
def empty : Tree := ⟨[], []⟩

/-- What a place holds; the root is a directory. -/
def node? (t : Tree) (place : Place) : Option Node :=
  if place.isEmpty then some .directory else t.nodes.lookup place

/-- Put something at a place. -/
def put (t : Tree) (place : Place) (node : Node) : Tree :=
  { t with nodes := (place, node) :: t.nodes.filter fun n => n.1 != place }

def isDirectory (t : Tree) (place : Place) : Bool :=
  ((t.node? place).map Node.isDirectory).getD false

/-! ### Following a path -/

/-- The bytes that a name may have. -/
def longestName : Nat := 255

/-- One step from a place. -/
def step (t : Tree) (place : Place) (name : String) : Except FileError Place :=
  match t.node? place with
  | none => .error .notFound
  | some .directory =>
    if name = "." then .ok place
    else if name = ".." then .ok place.tail
    else if longestName < name.utf8ByteSize then .error .nameTooLong
    else .ok (name :: place)
  | some _ => .error .notDirectory

/-- Follow some names. All but the last have to lead to directories, and the last may lead nowhere. -/
def follow (t : Tree) (start : Place) (names : List String) : Except FileError Place :=
  names.foldlM t.step start

/-- Where a path starts. -/
def start (t : Tree) (path : String) : Place :=
  if Path.isAbsolute path then [] else t.working

/-- Follow a path. -/
def find (t : Tree) (path : String) : Except FileError Place :=
  if path.toList.contains (Char.ofNat 0) then .error .zeroInName
  else t.follow (t.start path) (Path.names path)

/-- What is at the end of a path. -/
def look (t : Tree) (path : String) : Except FileError Node := do
  match t.node? (← t.find path) with
  | none => throw .notFound
  | some node => if Path.endsInside path ∧ !node.isDirectory then throw .notDirectory else return node

/-- The content of a file. A database is no text. -/
def read (t : Tree) (path : String) : Except FileError ByteArray := do
  match ← t.look path with
  | .directory => throw .isDirectory
  | .file content => return content
  | .database _ => throw .notUtf8

/-! ### Making directories -/

/-- Make one directory at the end of some names. -/
def makeDirectory (t : Tree) (start : Place) (names : List String) : Except FileError Tree := do
  let place ← t.follow start names
  match t.node? place with
  | some _ => throw .exists
  | none => return t.put place .directory

/-- Whether some names lead to a directory. -/
def leadsInside (t : Tree) (start : Place) (names : List String) : Bool :=
  match t.follow start names with
  | .ok place => t.isDirectory place
  | .error _ => false

/-- Make a directory unless it is one already. -/
def ensureDirectory (t : Tree) (start : Place) (names : List String) : Except FileError Tree :=
  match t.makeDirectory start names with
  | .ok t => .ok t
  | .error cause => if t.leadsInside start names then .ok t else .error cause

/-- Make the directory at the end of some names, the last one first, and all that are missing above
it. -/
def ensureAll (t : Tree) (start : Place) : List String → Except FileError Tree
  | [] => .ok t
  | name :: above =>
    match t.ensureDirectory start (name :: above).reverse with
    | .error .notFound => do
      let t ← t.ensureAll start above
      t.ensureDirectory start (name :: above).reverse
    | outcome => outcome

/-- Make the directory at a path and all that are missing above it. -/
def makeDirectories (t : Tree) (path : String) : Except FileError Tree :=
  if path.toList.contains (Char.ofNat 0) then .error .zeroInName
  else t.ensureAll (t.start path) (Path.names path).reverse

/-- Make all directories above the end of a path. -/
def makeParents (t : Tree) (path : String) : Except FileError Tree :=
  if path.toList.contains (Char.ofNat 0) then .error .zeroInName
  else t.ensureAll (t.start path) (Path.names path).reverse.tail

end Tree

end CategoryFilter
