/-
Where the log goes and what it shows.

The log goes to files in the log directory, and to the console too if that was asked for. If the
directory cannot be made it goes to the console alone. What it shows is set by the environment, or else
by the arguments.
-/

import CategoryFilter.CommandLine.Arguments
import CategoryFilter.Daemon.Notice
import CategoryFilter.Store.Opening

namespace CategoryFilter.Daemon

/-- The environment of a run. -/
structure Environment where
  directories : UserDirectories
  /-- The directives about the log, if the environment has any. -/
  logFilter : Option String
  tree : Tree

/-- The log of a run. -/
structure Journal where
  filter : Log.Filter
  toConsole : Bool
  toFile : Bool
  /-- Complaints about directives that are left out. -/
  complaints : List String

namespace Journal

/-- The directives that the arguments stand for. -/
def directives (a : Arguments) : String :=
  "catwatch=" ++ (if a.debug then "debug" else a.logLevel) ++ ",warn"

/-- What the log shows, and the complaints about it. Directives of the environment that are not well
formed do not count at all. -/
def chooseFilter (a : Arguments) (e : Environment) : Log.Filter × List String :=
  match e.logFilter.bind Log.Filter.parse? with
  | some filter => (filter, [])
  | none => Log.Filter.parseLeniently (directives a)

/-- The tree with the log directory, if it can be made. -/
def makeDirectory? (e : Environment) : Option Tree :=
  e.directories.logDirectory?.bind fun directory => (e.tree.makeDirectories directory).toOption

/-- Begin the log: the tree with the log directory, and the log. -/
def start (a : Arguments) (e : Environment) : Tree × Journal :=
  let (filter, complaints) := chooseFilter a e
  match makeDirectory? e with
  | some tree => (tree, ⟨filter, a.debug || a.foreground, true, complaints⟩)
  | none => (e.tree, ⟨filter, true, false, complaints⟩)

/-- Those messages that the log shows. -/
def shown (j : Journal) (notices : List Notice) : List Notice :=
  notices.filter (Notice.isShown j.filter)

/-- The messages on the console. -/
def console (j : Journal) (notices : List Notice) : List Notice :=
  if j.toConsole then j.shown notices else []

/-- The messages in the log files. -/
def file (j : Journal) (notices : List Notice) : List Notice :=
  if j.toFile then j.shown notices else []

end Journal

end CategoryFilter.Daemon
