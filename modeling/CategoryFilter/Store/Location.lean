/-
Where the program keeps its data.

The data directory is below the directory that the environment names for data, if it names one by an
absolute path, else below the usual place in the home directory. The home directory is the one that the
environment names, else the one that the system has for the user's account.
-/

import CategoryFilter.Files.Path
import CategoryFilter.Store.Error

namespace CategoryFilter

/-- What the environment and the system say about the user's directories. -/
structure UserDirectories where
  home : Option String
  /-- The home directory that the system has for the user's account. -/
  account : Option String
  /-- The directory for data. -/
  data : Option String
deriving Repr

namespace UserDirectories

/-- The home directory. An empty name in the environment does not count. -/
def homeDirectory? (u : UserDirectories) : Option String :=
  u.home.filter (· != "") <|> u.account

/-- The directory of the program's data, if there is a home directory. -/
def dataDirectory? (u : UserDirectories) : Option String :=
  match u.homeDirectory? with
  | none => none
  | some home =>
    let base := (u.data.filter Path.isAbsolute).getD (Path.join home ".local/share")
    some (Path.join base "catwatch")

/-- The directory of the log files. -/
def logDirectory? (u : UserDirectories) : Option String :=
  u.dataDirectory?.map (Path.join · "logs")

/-- The path of the database that is used unless another is named. -/
def databasePath (u : UserDirectories) : Except StorageError String :=
  match u.dataDirectory? with
  | some directory => .ok (Path.join directory "catwatch.db")
  | none => .error (.config "Could not determine app data directory")

end UserDirectories

end CategoryFilter
