/-
What an operation of the examiner meets from outside.

The services answer its questions, the clock is read at fixed points of it, and shutdown may be asked
for while it runs. Each reading of the clock and each look at the shutdown has a name, so that an
operation from beginning to end is a function of its surroundings.
-/

import CategoryFilter.Services.Basic
import CategoryFilter.SortedSet.Basic

namespace CategoryFilter

/-- What the clock is read for. -/
inductive Reading where
  /-- The examination of one result of the local filter, by its place. -/
  | result (index : Nat)
  /-- The confirmation of a category's candidates. -/
  | confirmation (category : String)
  /-- The feeding of a confirmed pattern into enforcement. -/
  | feed (category pattern : String)
  /-- The refresh of a category. -/
  | refresh (category : String)
deriving Repr, DecidableEq

/-- Readings of the clock. -/
abbrev Clock := Reading → Score

/-- Where an operation looks whether shutdown was asked for. -/
inductive Checkpoint where
  /-- Before a category's turn in a refresh of all. -/
  | turn (category : String)
  /-- While a refresh waits for things to settle. -/
  | settling (category : String)
  /-- Before a member is checked. -/
  | member (category domain : String)
deriving Repr, DecidableEq

/-- Everything that an operation meets from outside. -/
structure Surroundings where
  services : Services
  clock : Clock
  /-- The time by the clock of the memo. -/
  instant : Int
  stopped : Checkpoint → Bool

end CategoryFilter
