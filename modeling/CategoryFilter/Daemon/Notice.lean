/-
What the program logs about its own life.

Every message has the level `info` and an origin, by which the log is filtered.
-/

import CategoryFilter.Log.Filter

namespace CategoryFilter.Daemon

/-- A message about the program's life. -/
inductive Notice where
  | starting
  | standardConfig
  | configLoaded
  | migrating
  | switchedOn
  | switchedOff
  | forwarding
  | stopping
deriving Repr, DecidableEq

namespace Notice

/-- All messages. -/
def all : List Notice :=
  [starting, standardConfig, configLoaded, migrating, switchedOn, switchedOff, forwarding, stopping]

/-- What a message begins with. -/
def text : Notice → String
  | starting => "Starting Catwatch..."
  | standardConfig => "No config file given, using defaults"
  | configLoaded => "Loaded examiner config"
  | migrating => "Running migrations"
  | switchedOn => "Category filter is on"
  | switchedOff => "Category filter is off"
  | forwarding => "Forwarding hit-set notifications"
  | stopping => "Catwatch shutting down"

/-- Where a message comes from. -/
def origin : Notice → String
  | migrating => "catwatch_storage::schema"
  | configLoaded => "catwatch_examiner::config"
  | forwarding => "catwatch_examiner::notifier"
  | _ => "catwatch"

/-- Whether a filter shows a message. -/
def isShown (filter : Log.Filter) (n : Notice) : Bool :=
  filter.shows n.origin .info

end Notice

end CategoryFilter.Daemon
