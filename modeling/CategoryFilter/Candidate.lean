/-
Candidates for confirmation and their keys.

A candidate says that the local filter found a domain, its origin, in a category under a pattern. Its
key joins the three by colons, and `ofKey?` reads a key back: it divides at the first two colons, so
only the origin may hold further ones, and no part may be empty.
-/

namespace CategoryFilter

/-- A match of the local filter that waits for confirmation. -/
structure Candidate where
  category : String
  pattern : String
  origin : String
deriving Repr, DecidableEq, Hashable

/-- A text that is no candidate's key. -/
structure KeyError where
  text : String
deriving Repr, DecidableEq

/-- The message for a text that is no key. -/
def KeyError.message (e : KeyError) : String :=
  "invalid candidate key: " ++ e.text

namespace Candidate

/-- The three parts joined by colons. -/
def key (c : Candidate) : String :=
  c.category ++ ":" ++ c.pattern ++ ":" ++ c.origin

/-- A text divided at its first colon. -/
def splitColon : List Char → Option (List Char × List Char)
  | [] => none
  | c :: rest =>
    if c = ':' then some ([], rest)
    else (splitColon rest).map fun (before, after) => (c :: before, after)

/-- The candidate with a given key. -/
def ofKey? (text : String) : Except KeyError Candidate :=
  let parts := do
    let (category, rest) ← splitColon text.toList
    let (pattern, origin) ← splitColon rest
    if category.isEmpty || pattern.isEmpty || origin.isEmpty then none
    else some ⟨String.ofList category, String.ofList pattern, String.ofList origin⟩
  match parts with
  | some c => .ok c
  | none => .error ⟨text⟩

/-- The order of candidates: by category, then pattern, then origin. -/
def before (a b : Candidate) : Bool :=
  if a.category ≠ b.category then a.category < b.category
  else if a.pattern ≠ b.pattern then a.pattern < b.pattern
  else a.origin < b.origin

/-- Candidates in ascending order. -/
def sort (cs : List Candidate) : List Candidate :=
  cs.mergeSort fun a b => !b.before a

end Candidate

end CategoryFilter
