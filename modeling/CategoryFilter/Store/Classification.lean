/-
The pair of sets of a category.

A name is a hit, a passthrough, or neither. Adding it to one set first removes it from the other, so an
action that stops halfway leaves it in neither. Trimming cuts each set to its newest entries.
-/

import CategoryFilter.Category.Name
import CategoryFilter.Store.Database

namespace CategoryFilter.Classification

open Category (SetKeys)

/-- Whether a name is a hit. -/
def isHit (keys : SetKeys) (name : String) : Action Bool := do
  return (← Database.score? keys.hit name).isSome

/-- Whether a name is a passthrough. -/
def isPassthrough (keys : SetKeys) (name : String) : Action Bool := do
  return (← Database.score? keys.passthrough name).isSome

/-- Make a name a hit, and say whether a membership changed. -/
def addHit (keys : SetKeys) (name : String) (score : Score) : Action Bool := do
  let removed ← Database.erase keys.passthrough name
  let added ← Database.insert keys.hit score name
  return added || removed

/-- Make a name a passthrough, and say whether a membership changed. -/
def addPassthrough (keys : SetKeys) (name : String) (score : Score) : Action Bool := do
  let removed ← Database.erase keys.hit name
  let added ← Database.insert keys.passthrough score name
  return added || removed

/-- Remove a name from the hits. -/
def removeHit (keys : SetKeys) (name : String) : Action Bool :=
  Database.erase keys.hit name

/-- Remove a name from the passthroughs. -/
def removePassthrough (keys : SetKeys) (name : String) : Action Bool :=
  Database.erase keys.passthrough name

/-- The hits, oldest first. -/
def hits (keys : SetKeys) : Action (List String) :=
  Database.members keys.hit

/-- The passthroughs, oldest first. -/
def passthroughs (keys : SetKeys) : Action (List String) :=
  Database.members keys.passthrough

/-- The hits recorded at a time or later. -/
def hitsSince (keys : SetKeys) (since : Score) : Action (List Entry) :=
  Database.range keys.hit since Int64.maxValue

/-- Cut a set to its `limit` newest entries, and count those removed. -/
def trimSet (key : String) (limit : Nat) : Action Nat := do
  let size ← Database.size key
  if size ≤ limit then return 0
  else Database.removeRanks key 0 (Int64.ofNat (size - limit) - 1)

/-- Cut both sets to their `limit` newest entries, and count those removed. -/
def trim (keys : SetKeys) (limit : Nat) : Action Nat := do
  let hits ← trimSet keys.hit limit
  let passthroughs ← trimSet keys.passthrough limit
  return hits + passthroughs

/-- Delete both sets, and say whether either had members. -/
def clear (keys : SetKeys) : Action Bool := do
  let hit ← Database.delete keys.hit
  let passthrough ← Database.delete keys.passthrough
  return hit || passthrough

end CategoryFilter.Classification
