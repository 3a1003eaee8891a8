/-
The life of the program, from its arguments to its end.

The program begins its log, loads the configuration and opens the database; any of the last two can
fail and ends it. Otherwise it makes the examiner, says whether the feature is on, and serves until it is
interrupted.
-/

import CategoryFilter.Config.Codec
import CategoryFilter.Daemon.Journal
import CategoryFilter.Examiner.State

namespace CategoryFilter.Daemon

/-- Why the program could not come up. -/
inductive LaunchError where
  | config (path : String) (cause : Failure)
  | database (cause : StorageError)
deriving Repr, DecidableEq

/-- The message of a failed start. -/
def LaunchError.message : LaunchError → String
  | .config path cause => "Config error in " ++ Text.quoted path ++ ": " ++ cause.message
  | .database cause => "Database error: " ++ cause.message

/-- What a start has done so far. -/
structure Progress where
  tree : Tree
  /-- The messages that were logged, oldest first. -/
  notices : List Notice

/-- The steps of a start. -/
abbrev Launch (α : Type) := ExceptT LaunchError (StateM Progress) α

/-- Log a message. -/
def announce (n : Notice) : Launch Unit :=
  modify fun p => { p with notices := p.notices ++ [n] }

/-- Load the configuration from a file, or take the standard one. -/
def loadConfig : Option String → Launch Config
  | none => do
    announce .standardConfig
    return .standard
  | some path => do
    match Config.ofFile ((← get).tree.read path) with
    | .ok config =>
      announce .configLoaded
      return config
    | .error cause => throw (.config path cause)

/-- Open the database at a path, or the one that is used unless another is named. -/
def openDatabase (directories : UserDirectories) (path : Option String) : Launch Opened := do
  let tree := (← get).tree
  let (tree, outcome) := match path with
    | some path => tree.openDatabase path
    | none => tree.openStandardDatabase directories
  modify ({ · with tree := tree })
  match outcome with
  | .ok opened =>
    if opened.migrated then announce .migrating
    return opened
  | .error cause => throw (.database cause)

/-- Start the examiner. -/
def launch (directories : UserDirectories) (a : Arguments) : Launch State := do
  announce .starting
  let config ← loadConfig a.config
  let opened ← openDatabase directories a.database
  if config.notifyUrl.isSome then announce .forwarding
  let state := State.new config opened.content
  announce (if state.session.enabled then .switchedOn else .switchedOff)
  return state

/-- A run of the program. -/
structure Run where
  /-- The exit code. -/
  code : Nat
  /-- The examiner, if it came up. -/
  state : Option State
  /-- Lines for standard output that are not part of the log. -/
  output : List String
  /-- Lines for standard error. -/
  errors : List String
  /-- The messages on the console. -/
  console : List Notice
  /-- The messages in the log files. -/
  file : List Notice
  tree : Tree

/-- A run that ends at its arguments. -/
def Run.refused (tree : Tree) : Refusal → Run
  | .usage => ⟨2, none, [], Arguments.usageText, [], [], tree⟩
  | .help => ⟨0, none, Arguments.helpText, [], [], [], tree⟩
  | .version => ⟨0, none, [Arguments.versionText], [], [], [], tree⟩

/-- A run with well-formed arguments. One that comes up is interrupted some time later. -/
def Run.ofArguments (e : Environment) (a : Arguments) : Run :=
  let (tree, journal) := Journal.start a e
  let (outcome, progress) := (launch e.directories a).run.run ⟨tree, []⟩
  match outcome with
  | .ok state =>
    let notices := progress.notices ++ [.stopping]
    ⟨0, some state, [], journal.complaints, journal.console notices, journal.file notices,
      progress.tree⟩
  | .error cause =>
    ⟨1, none, [], journal.complaints ++ ["Error: " ++ cause.message],
      journal.console progress.notices, journal.file progress.notices, progress.tree⟩

/-- Run the program. -/
def run (e : Environment) (arguments : List String) : Run :=
  match Arguments.parse arguments with
  | .ok a => .ofArguments e a
  | .error refusal => .refused e.tree refusal

end CategoryFilter.Daemon
