/-
Paths as text.

The names in a path stand between slashes. A path that begins with a slash starts at the root, any
other at the working directory. An empty name or a single dot names the place where it stands.
-/

import CategoryFilter.Text.Pieces

namespace CategoryFilter.Path

def isAbsolute (path : String) : Bool :=
  path.toList.head? == some '/'

/-- A path continued by another, which replaces it if it is absolute. -/
def join (path rest : String) : String :=
  if isAbsolute rest then rest
  else if path.isEmpty ∨ path.toList.getLast? = some '/' then path ++ rest
  else path ++ "/" ++ rest

/-- All names in a path, the empty ones and the single dots among them. -/
def rawNames (path : String) : List String :=
  (Text.pieces (· == '/') path.toList).map String.ofList

/-- The names in a path that lead somewhere else. -/
def names (path : String) : List String :=
  (rawNames path).filter fun name => name != "" && name != "."

/-- Whether a path says that it is a directory: by a slash or a single dot at its end. -/
def endsInside (path : String) : Bool :=
  match (rawNames path).getLast? with
  | some last => !path.isEmpty && (last == "" || last == ".")
  | none => false

end CategoryFilter.Path
