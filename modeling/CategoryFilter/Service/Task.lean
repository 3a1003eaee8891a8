/-
Tasks of the service.

A task runs without interruption until it has to wait: for a time, for the lock of a category, for an
event, or for a permit to detect. `Stage` is what it does when it goes on. The operations are those of the
examiner, cut where they wait.
-/

import CategoryFilter.Examiner.Confirmation
import CategoryFilter.Examiner.Detection
import CategoryFilter.Examiner.Refresh

namespace CategoryFilter

/-- What a task does next. -/
inductive Stage where
  /-- Begin to detect a domain. -/
  | detect (origin : String)
  /-- Take the answer of the local filter about a domain. -/
  | filtered (origin : String)
  /-- Confirm what is queued. -/
  | confirm
  /-- Begin to refresh a category. -/
  | refresh (category : String)
  /-- Go on with a refresh after things have settled. -/
  | settled (category : String)
  /-- Go on with a refresh that has the lock of its category. -/
  | locked (category : String)
  /-- Take the answer of the local filter about the next member of a refresh. -/
  | checked (r : Refresh)
  /-- Begin to refresh all active categories. -/
  | refreshAll
  /-- Go on with the next category of a refresh of all. -/
  | turns (rest : List String) (reports : List RefreshReport)
  /-- Begin to confirm at regular times. -/
  | ticking
  /-- Confirm at a regular time. -/
  | tick (due : Int)
  /-- Wait for the next night. -/
  | night
  /-- Refresh all in the night. -/
  | nightly
  /-- Take the next event of a channel. -/
  | dispatching (channel : Nat)
  /-- Detect the domain of an event, with a permit. -/
  | permitted (channel : Nat) (event : Event)

/-- What a task waits for. -/
inductive Wait where
  /-- A time, or the shutdown if `orStop` says so. -/
  | time (due : Int) (orStop : Bool)
  /-- The lock of a category. -/
  | lock (category : String)
  /-- An event on a channel, or the shutdown. -/
  | event (channel : Nat)
  /-- A permit to detect, or the shutdown. -/
  | permit
deriving Repr, DecidableEq

/-- What a finished task leaves. -/
inductive TaskResult where
  | detected (count : Nat)
  | confirmed (report : ConfirmReport)
  | refreshed (outcome : Except Failure (Option RefreshReport))
  | refreshedAll (reports : List RefreshReport)
  /-- The end of a loop. -/
  | stopped

/-- A task. -/
structure Task where
  id : Nat
  /-- The session that it belongs to. -/
  session : Nat
  stage : Stage
  /-- What it waits for, and its turn among those that wait. -/
  waiting : Option (Wait × Nat)
  /-- The categories still to come in a refresh of all, and the reports so far. -/
  turns : Option (List String × List RefreshReport)
  /-- Whether it goes on with the next night after a refresh of all. -/
  isNightly : Bool
  /-- The category whose lock it holds. -/
  lock : Option String
  /-- The dispatcher whose permit it holds. -/
  permit : Option Nat

/-- How a task goes on after a step. -/
inductive Next where
  | go (stage : Stage)
  | wait (stage : Stage) (reason : Wait)
  | done (result : TaskResult)

end CategoryFilter
