/-
The database: sorted sets and settings in two tables.

An operation is an action on the database. It fails if its table is missing, and a statement that would
write or delete a guarded member fails as a whole. What an action did before it failed stays done,
so an operation made of two statements can stop between them.
-/

import CategoryFilter.Store.Error
import CategoryFilter.Store.Sets

namespace CategoryFilter

/-- The content of a database. -/
structure Database where
  /-- The schema version that the file records. -/
  version : Int
  /-- The table of sorted sets. -/
  sets : Option Sets
  /-- The table of settings: each key with its text. -/
  settings : Option (List (String × String))
  /-- Members whose rows may be neither written nor deleted. -/
  guarded : List String
deriving Repr, DecidableEq

/-- An action on the database. -/
abbrev Action (α : Type) := ExceptT StorageError (StateM Database) α

namespace Database

/-- The action of looking up the table of sorted sets. -/
def readSets : Action Sets := do
  match (← get).sets with
  | some sets => return sets
  | none => throw .database

/-- The action of writing the table of sorted sets. -/
def writeSets (sets : Sets) : Action Unit :=
  modify ({ · with sets := some sets })

/-- Refuse to touch any of some members that is guarded. -/
def checkGuard (members : List String) : Action Unit := do
  if members.any (← get).guarded.contains then throw .database

/-! ### Sorted sets -/

/-- The score of a member. -/
def score? (key member : String) : Action (Option Score) := do
  return ((← readSets).get key).score? member

/-- The number of members. -/
def size (key : String) : Action Nat := do
  return ((← readSets).get key).size

/-- All members in rank order. -/
def members (key : String) : Action (List String) := do
  return ((← readSets).get key).members

/-- The entries with a score between two bounds, in rank order. -/
def range (key : String) (lowest highest : Score) : Action (List Entry) := do
  return ((← readSets).get key).range lowest highest

/-- Add a member or set its score, and say whether it is new. -/
def insert (key : String) (score : Score) (member : String) : Action Bool := do
  let sets ← readSets
  checkGuard [member]
  writeSets (sets.update key ((sets.get key).insert member score))
  return !(sets.get key).contains member

/-- Remove a member, and say whether it was there. -/
def erase (key member : String) : Action Bool := do
  let sets ← readSets
  if (sets.get key).contains member then
    checkGuard [member]
    writeSets (sets.update key ((sets.get key).erase member))
    return true
  else return false

/-- Remove the members between two ranks, both included, and count them. -/
def removeRanks (key : String) (start stop : Int64) : Action Nat := do
  let sets ← readSets
  let removed := (sets.get key).ranks start stop
  checkGuard (removed.map Entry.member)
  writeSets (sets.update key ((sets.get key).removeRanks start stop))
  return removed.length

/-- Delete a whole set, and say whether it had members. -/
def delete (key : String) : Action Bool := do
  let sets ← readSets
  checkGuard (sets.get key).members
  writeSets (sets.update key .empty)
  return !(sets.get key).isEmpty

/-! ### Texts of settings -/

/-- The action of looking up the table of settings. -/
def readSettings : Action (List (String × String)) := do
  match (← get).settings with
  | some settings => return settings
  | none => throw .database

/-- The text of a setting. -/
def settingText? (key : String) : Action (Option String) := do
  return (← readSettings).lookup key

/-- Store the text of a setting. -/
def putSettingText (key text : String) : Action Unit := do
  let others := (← readSettings).filter fun s => s.1 != key
  modify ({ · with settings := some (others ++ [(key, text)]) })

/-- Remove a setting, and say whether it was there. -/
def eraseSetting (key : String) : Action Bool := do
  let settings ← readSettings
  modify ({ · with settings := some (settings.filter fun s => s.1 != key) })
  return (settings.lookup key).isSome

end Database

end CategoryFilter
