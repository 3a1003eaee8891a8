/-
What can go wrong with files and with the database.
-/

namespace CategoryFilter

/-- Why a file or directory could not be used. -/
inductive FileError where
  | notFound
  | exists
  | notDirectory
  | isDirectory
  | nameTooLong
  | notUtf8
  | zeroInName
deriving Repr, DecidableEq

/-- The system's text for a file error. -/
def FileError.message : FileError → String
  | .notFound => "No such file or directory (os error 2)"
  | .exists => "File exists (os error 17)"
  | .notDirectory => "Not a directory (os error 20)"
  | .isDirectory => "Is a directory (os error 21)"
  | .nameTooLong => "File name too long (os error 36)"
  | .notUtf8 => "stream did not contain valid UTF-8"
  | .zeroInName => "file name contained an unexpected NUL byte"

/-- Why a storage operation failed. -/
inductive StorageError where
  /-- The database refused a statement or could not be opened. -/
  | database
  /-- A stored text is not the JSON that was asked for. -/
  | json
  | io (cause : FileError)
  | config (text : String)
deriving Repr, DecidableEq

/-- The message of a storage error. The database and the JSON reader word their own part. -/
def StorageError.message : StorageError → String
  | .database => "Database error:"
  | .json => "JSON error:"
  | .io cause => "IO error: " ++ cause.message
  | .config text => "Configuration error: " ++ text

end CategoryFilter
