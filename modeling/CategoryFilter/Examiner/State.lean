/-
The state of the examiner.

What lasts is in the database; the registry holds the configured categories. A session is what one run
keeps in memory: the feature switch, the memo, the queue, and whether shutdown was asked for. The
state also records, oldest first, the notices that were sent and the questions that were asked.
-/

import CategoryFilter.Config.Basic
import CategoryFilter.Event
import CategoryFilter.Memo
import CategoryFilter.Queue
import CategoryFilter.Services.Basic
import CategoryFilter.Store.Classification
import CategoryFilter.Store.Settings

namespace CategoryFilter

/-- What one run keeps in memory. -/
structure Session where
  /-- The feature switch. -/
  enabled : Bool
  memo : Memo
  queue : Queue
  /-- Whether shutdown was asked for. -/
  stopped : Bool
deriving Repr

/-- The state of the examiner. -/
structure State where
  config : Config
  database : Database
  registry : Registry
  session : Session
  /-- The categories that notices were sent for. -/
  notified : List String
  /-- The questions asked of the services. -/
  asked : List Question
deriving Repr

/-- The setting that keeps the feature switch. -/
def featureKey : String := "feature.category_filter"

/-- The switch that a new session starts with: the stored one if it can be read, else the configured
one. -/
def storedSwitch (config : Config) (database : Database) : Bool :=
  match (Database.settingOr featureKey config.enabled Json.bool?).run.run database with
  | (.ok enabled, _) => enabled
  | (.error _, _) => config.enabled

/-- A new session. -/
def Session.new (config : Config) (database : Database) : Session where
  enabled := storedSwitch config database
  memo := .new config.memoCapacity.toNat config.memoTtl
  queue := .new config.maxConfirmAttempts
  stopped := false

namespace State

/-- The examiner over a database, with a new session. -/
def new (config : Config) (database : Database) : State where
  config := config
  database := database
  registry := .ofList config.categories
  session := .new config database
  notified := []
  asked := []

/-- The examiner with a new session in place of the old one. -/
def restart (s : State) : State :=
  { s with session := .new s.config s.database }

/-- Run an action on the database. -/
def act {α : Type} (s : State) (action : Action α) : State × Except StorageError α :=
  let (outcome, database) := action.run.run s.database
  ({ s with database := database }, outcome)

/-- Run an action that says whether it changed anything; a failed one counts as no change. -/
def apply (s : State) (action : Action Bool) : State × Bool :=
  match s.act action with
  | (s, .ok changed) => (s, changed)
  | (s, .error _) => (s, false)

/-- Send a notice about the sets of a category. -/
def notify (s : State) (category : String) : State :=
  { s with notified := s.notified ++ [category] }

/-- Send a notice if the sets changed. -/
def notifyIf (s : State) (changed : Bool) (category : String) : State :=
  if changed then s.notify category else s

/-- Record questions. -/
def ask (s : State) (questions : List Question) : State :=
  { s with asked := s.asked ++ questions }

/-- Change the queue. -/
def withQueue (s : State) (queue : Queue) : State :=
  { s with session := { s.session with queue := queue } }

/-- Put a failed candidate back, and say whether it may try again. -/
def requeue (s : State) (p : Pending) : State × Bool :=
  let (queue, kept) := s.session.queue.requeue p.1 p.2
  (s.withQueue queue, kept)

/-! ### The feature switch -/

/-- First half of switching the feature: store the switch. -/
def persistSwitch (s : State) (enabled : Bool) : State × Except StorageError Unit :=
  s.act (Database.putSetting featureKey (.bool enabled))

/-- Second half of switching the feature: change the session. -/
def commitSwitch (s : State) (enabled : Bool) : State :=
  { s with session := { s.session with enabled := enabled } }

/-- Switch the feature. If the switch cannot be stored it stays as it is. -/
def setEnabled (s : State) (enabled : Bool) : State × Except Failure Unit :=
  match s.persistSwitch enabled with
  | (s, .ok ()) => (s.commitSwitch enabled, .ok ())
  | (s, .error cause) => (s, .error (.storage cause))

/-! ### Deactivation and recent hits -/

/-- Delete both sets of a category, and say whether either had members. -/
def deactivate (s : State) (category : String) : State × Except Failure Bool :=
  match s.act (Classification.clear (Category.setKeys category)) with
  | (s, .ok cleared) => (s.notifyIf cleared category, .ok cleared)
  | (s, .error cause) => (s, .error (.storage cause))

/-- Add a pattern to the enforcement data of a category. -/
def updateDomain (s : State) (category pattern : String) (now : Score) :
    State × Except StorageError Bool :=
  s.act (Database.insert (Category.dynamicKey category) now pattern)

/-- The patterns in the enforcement data of a category, oldest first. -/
def dynamicDomains (s : State) (category : String) : Except StorageError (List String) :=
  (s.act (Database.members (Category.dynamicKey category))).2

/-- The nearest 64-bit number. -/
def saturate (n : Int) : Score :=
  if n < Int64.minValue.toInt then Int64.minValue
  else if Int64.maxValue.toInt < n then Int64.maxValue
  else Int64.ofInt n

/-- The number of hits that some categories got at a time or later. -/
def countHits (since : Score) : List String → Action Nat
  | [] => return 0
  | category :: rest => do
    let here := (← Classification.hitsSince (Category.setKeys category) since).length
    return here + (← countHits since rest)

/-- The number of hits that the active categories got within a window of milliseconds. The window is
taken as a 64-bit number. -/
def recentHits (s : State) (window : Nat) (now : Score) : Except Failure Nat :=
  let since := saturate (now.toInt - (Int64.ofNat window).toInt)
  match (s.act (countHits since s.registry.activeCategories)).2 with
  | .ok count => .ok count
  | .error cause => .error (.storage cause)

end State

end CategoryFilter
