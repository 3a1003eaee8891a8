/-
Why an operation of the pipeline failed.
-/

import CategoryFilter.Store.Error

namespace CategoryFilter

/-- The cause of a failed operation. -/
inductive Failure where
  /-- A request was refused, was not answered with success, or its answer could not be read. -/
  | http
  /-- A text is not the JSON that was asked for. -/
  | json
  | io (cause : FileError)
  | storage (cause : StorageError)
  /-- A confirmation source answered with data of no use. -/
  | source (text : String)
  /-- A call was not answered in time. -/
  | timeout
  | config (text : String)
deriving Repr, DecidableEq

/-- The message of a failure. What other libraries word is left out. -/
def Failure.message : Failure → String
  | .http => "HTTP request failed:"
  | .json => "JSON error:"
  | .io cause => "IO error: " ++ cause.message
  | .storage cause => "Storage error: " ++ cause.message
  | .source text => "Source error: " ++ text
  | .timeout => "Timed out:"
  | .config text => "Config error: " ++ text

end CategoryFilter
