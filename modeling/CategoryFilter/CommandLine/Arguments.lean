/-
The arguments of the program.

Options are read from the left. A value stands after an equals sign or is the next argument, which may
not begin with a dash unless it is a single one. Each option may be given once. The first fault and the
first request for help or for the version end the reading, whatever follows.
-/

import CategoryFilter.Ingress.Listener

namespace CategoryFilter

/-- What the program was asked to do. -/
structure Arguments where
  /-- The file with the configuration. -/
  config : Option String
  /-- The file with the database. -/
  database : Option String
  /-- The port of the local interface. -/
  port : UInt16
  /-- Whether the log goes to the console too. -/
  foreground : Bool
  /-- Whether the log shows what helps in finding faults, on the console too. -/
  debug : Bool
  /-- How much the log shows. -/
  logLevel : String
deriving Repr, DecidableEq

/-- Why the program does not start. -/
inductive Refusal where
  /-- The arguments are wrong. -/
  | usage
  /-- Help was asked for. -/
  | help
  /-- The version was asked for. -/
  | version
deriving Repr, DecidableEq

namespace Arguments

/-- The options that were given so far. -/
structure Given where
  config : Option String
  database : Option String
  port : Option UInt16
  foreground : Bool
  debug : Bool
  logLevel : Option String

/-- No options. -/
def Given.none : Given :=
  ⟨.none, .none, .none, false, false, .none⟩

/-- A port: a whole number of 16 bits, perhaps with a sign. -/
def port? (text : String) : Option UInt16 :=
  let cs := text.toList
  let negative := cs.head? == some '-'
  let digits := if negative || cs.head? == some '+' then cs.tail else cs
  let n := digits.foldl (fun n c => n * 10 + (c.toNat - 0x30)) 0
  if digits.isEmpty ∨ digits.any (!Char.isDigit ·) then .none
  else if n < UInt16.size ∧ (negative → n = 0) then some (UInt16.ofNat n)
  else .none

/-- A path, which may not be empty. -/
def path? (text : String) : Option String :=
  if text.isEmpty then .none else some text

/-- Set an option that was not given yet to a value that is well formed. -/
def once {α : Type} (given : Option α) (value : Option α) : Except Refusal (Option α) :=
  match given, value with
  | .none, some a => .ok (some a)
  | _, _ => .error .usage

/-- Turn on a switch that is not on yet. -/
def switch (given : Bool) : Except Refusal Bool :=
  if given then .error .usage else .ok true

/-- Whether an option has a value. -/
def hasValue (name : String) : Bool :=
  ["config", "db-path", "port", "log-level"].contains name

/-- Set an option to a value. -/
def setValue (g : Given) (name value : String) : Except Refusal Given :=
  match name with
  | "config" => do return { g with config := ← once g.config (path? value) }
  | "db-path" => do return { g with database := ← once g.database (path? value) }
  | "port" => do return { g with port := ← once g.port (port? value) }
  | "log-level" => do return { g with logLevel := ← once g.logLevel (some value) }
  | _ => .error .usage

/-- Follow an option without value. -/
def setSwitch (g : Given) (name : String) : Except Refusal Given :=
  match name with
  | "foreground" => do return { g with foreground := ← switch g.foreground }
  | "debug" => do return { g with debug := ← switch g.debug }
  | "help" => .error .help
  | "version" => .error .version
  | _ => .error .usage

/-- Follow an argument that begins with one dash: letters, of which the first counts. -/
def shortOption (letters : List Char) : Refusal :=
  match letters with
  | 'h' :: _ => .help
  | 'V' :: _ => .version
  | _ => .usage

/-- Whether an argument can be no value. -/
def isOption (argument : String) : Bool :=
  argument.toList.head? == some '-' && argument != "-"

/-- Read the arguments that follow. -/
def readFrom (g : Given) : List String → Except Refusal Given
  | [] => .ok g
  | argument :: rest =>
    match argument.toList with
    | '-' :: '-' :: [] => if rest.isEmpty then .ok g else .error .usage
    | '-' :: '-' :: option =>
      let name := String.ofList (option.takeWhile (· != '='))
      match option.dropWhile (· != '=') with
      | _ :: value => do
        if hasValue name then readFrom (← setValue g name (String.ofList value)) rest
        else throw .usage
      | [] =>
        if hasValue name then
          match rest with
          | value :: rest => do
            if isOption value then throw .usage
            else readFrom (← setValue g name value) rest
          | [] => .error .usage
        else do readFrom (← setSwitch g name) rest
    | '-' :: c :: letters => .error (shortOption (c :: letters))
    | _ => .error .usage

/-- The arguments with the standard values for the options that are not given. -/
def ofGiven (g : Given) : Arguments where
  config := g.config
  database := g.database
  port := g.port.getD Listener.standardPort
  foreground := g.foreground
  debug := g.debug
  logLevel := g.logLevel.getD "info"

/-- Read the arguments of the program. -/
def parse (arguments : List String) : Except Refusal Arguments :=
  (readFrom .none arguments).map ofGiven

/-- The program's name and version. -/
def versionText : String := "catwatch " ++ Ingress.version

/-- The answer to wrong arguments, line by line. -/
def usageText : List String := [
  "error: the arguments are not understood",
  "",
  "Usage: catwatch [OPTIONS]",
  "",
  "For more information, try '--help'."]

/-- The help on the arguments, line by line. -/
def helpText : List String := [
  "Main binary for the Catwatch category examiner",
  "",
  "Usage: catwatch [OPTIONS]",
  "",
  "Options:",
  "      --config <CONFIG>        Examiner config file (JSON)",
  "      --db-path <DB_PATH>      Database file (defaults to the app data directory)",
  "      --port <PORT>            Ingress port [default: 48766]",
  "      --foreground             Log to the console as well as the log file",
  "      --debug                  Enable debug logging",
  "      --log-level <LOG_LEVEL>  Set log level (error, warn, info, debug, trace) [default: info]",
  "  -h, --help                   Print help",
  "  -V, --version                Print version"]

end Arguments

end CategoryFilter
