/-
Confirmation by a list file.

The list of a category is a file named after it. Each line holds a domain or a wildcard; blanks around
it, empty lines and lines that begin with a number sign do not count. A key is confirmed if the list
holds it or a wildcard that covers its base.
-/

import CategoryFilter.Domain.Pattern
import CategoryFilter.Files.Path
import CategoryFilter.Services.Basic
import CategoryFilter.Text.Blank
import CategoryFilter.Text.LowerCase
import CategoryFilter.Text.Quoted

namespace CategoryFilter.Confirm

/-- Whether a category's id may name a list file. -/
def isListId (category : String) : Bool :=
  match category.toList with
  | [] => false
  | c :: rest => c != '.' && !(c :: rest).any fun c => c == '/' || c == '\\'

/-- The name of a category's list file. -/
def listFileName (category : String) : Except Failure String :=
  if isListId category then .ok (category ++ ".lst")
  else .error (.config ("invalid category id for list lookup: " ++ Text.quoted category))

/-- The path of a category's list file in a directory. -/
def listPath (directory category : String) : Except Failure String :=
  (listFileName category).map (Path.join directory)

/-- The lines of a text. -/
def lines : List Char → List (List Char)
  | [] => []
  | c :: rest =>
    if c = '\n' then [] :: lines rest
    else
      match lines rest with
      | [] => [[c]]
      | line :: more => (c :: line) :: more

/-- The entry of a line, unless it is empty or a comment. -/
def entryOf? (line : List Char) : Option String :=
  match Text.trim line with
  | [] => none
  | c :: rest => if c = '#' then none else some (String.ofList (Text.lowerAscii (c :: rest)))

/-- The entries of a list's text. -/
def listEntries (text : String) : List String :=
  (lines text.toList).filterMap entryOf?

/-- Whether a list holds a key or a wildcard that covers its base. -/
def isListed (entries : List String) (key : String) : Bool :=
  entries.contains key || (Domain.wildcards (Domain.base key)).any entries.contains

/-- The entries of a category's list file. -/
def loadList (listFile : String → Except FileError ByteArray) (category : String) :
    Except Failure (List String) := do
  let name ← listFileName category
  match listFile name with
  | .error cause => throw (.io cause)
  | .ok bytes =>
    match String.fromUTF8? bytes with
    | some text => return listEntries text
    | none => throw (.io .notUtf8)

/-- The keys that a category's list file confirms. Without keys the file is not read. -/
def byListFile (listFile : String → Except FileError ByteArray) (category : String)
    (keys : List String) : Except Failure (List String) :=
  if keys.isEmpty then .ok []
  else (loadList listFile category).map fun entries => keys.filter (isListed entries)

end CategoryFilter.Confirm
