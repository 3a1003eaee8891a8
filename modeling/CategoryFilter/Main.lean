/-
The program.

It looks at the places that its arguments and the environment name, runs, and carries out what the run
did: the directories it made, the lines it wrote and its log. Then it serves until its input ends.
-/

import CategoryFilter.Daemon.Launch

namespace CategoryFilter.Program

/-- What is at a path of this machine. -/
def nodeAt? (path : String) : IO (Option Node) := do
  try
    return some (.file (← IO.FS.readBinFile path))
  catch
    | .inappropriateType _ code _ => return if code == 21 then some .directory else none
    | _ => return none

/-- The path of a place. -/
def pathOf (place : Place) : String :=
  "/" ++ "/".intercalate place.reverse

/-- The places on the way along some names. -/
def placesAlong (start : Place) : List String → List Place
  | [] => [start]
  | name :: rest => start :: placesAlong (if name = ".." then start.tail else name :: start) rest

/-- The tree with what is along a path. -/
def explore (t : Tree) (path : String) : IO Tree :=
  (placesAlong (t.start path) (Path.names path)).foldlM
    (fun t place => do
      match ← nodeAt? (pathOf place) with
      | some node => return t.put place node
      | none => return t)
    t

/-- The paths that a run may use. -/
def pathsUsed (directories : UserDirectories) (arguments : List String) : List String :=
  match Arguments.parse arguments with
  | .ok a =>
    a.config.toList ++ (a.database <|> directories.databasePath.toOption).toList ++
      directories.logDirectory?.toList
  | .error _ => []

/-- The environment of this run. -/
def environment (arguments : List String) : IO Daemon.Environment := do
  let directories : UserDirectories :=
    ⟨← IO.getEnv "HOME", none, ← IO.getEnv "XDG_DATA_HOME"⟩
  let working := (Path.names (toString (← IO.currentDir))).reverse
  let tree ← (pathsUsed directories arguments).foldlM explore { Tree.empty with working }
  return ⟨directories, ← IO.getEnv "RUST_LOG", tree⟩

/-- Make what a run put at a place where nothing was. -/
def makeNode (place : Place) (node : Node) : IO Unit :=
  match node with
  | .directory => IO.FS.createDir (pathOf place)
  | .file content => IO.FS.writeBinFile (pathOf place) content
  | .database _ => IO.FS.writeFile (pathOf place) ""

/-- Make everything that a run added to the tree, what is higher first. -/
def makeNodes (before after : Tree) : IO Unit :=
  let added := after.nodes.filter fun n => (before.node? n.1).isNone
  (added.mergeSort fun a b => a.1.length ≤ b.1.length).forM fun n => makeNode n.1 n.2

/-- Write messages to the console and to the log file. -/
def writeLog (directories : UserDirectories) (console file : List Daemon.Notice) : IO Unit := do
  console.forM fun n => IO.println n.text
  match directories.logDirectory? with
  | some directory =>
    if !file.isEmpty then
      IO.FS.withFile (Path.join directory "catwatch.log") .append fun h =>
        file.forM fun n => h.putStrLn n.text
  | none => pure ()

/-- Wait for the end of the input. -/
partial def awaitEnd (input : IO.FS.Stream) : IO Unit := do
  if !(← input.getLine).isEmpty then awaitEnd input

/-- Run the program: its exit code. -/
def run (arguments : List String) : IO UInt32 := do
  let e ← environment arguments
  let r := Daemon.run e arguments
  makeNodes e.tree r.tree
  r.output.forM fun line => IO.println line
  r.errors.forM fun line => IO.eprintln line
  let isLast (n : Daemon.Notice) : Bool := n == .stopping
  writeLog e.directories (r.console.filter (!isLast ·)) (r.file.filter (!isLast ·))
  if r.state.isSome then
    awaitEnd (← IO.getStdin)
    writeLog e.directories (r.console.filter isLast) (r.file.filter isLast)
  return UInt32.ofNat r.code

end CategoryFilter.Program

/-- Run the program. -/
def main (arguments : List String) : IO UInt32 :=
  CategoryFilter.Program.run arguments
