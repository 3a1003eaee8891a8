/-
What the log shows, by directives.

The directives stand between commas. A message follows the most special directive about its origin, of
two alike the later one, and is not shown if there is none. A text without directives shows errors.
-/

import CategoryFilter.Log.Directive
import CategoryFilter.Text.Pieces

namespace CategoryFilter.Log

/-- The directives that are followed. -/
structure Filter where
  directives : List Directive
deriving Repr

namespace Filter

/-- The texts of the directives in a text. -/
def directiveTexts (text : String) : List (List Char) :=
  (Text.pieces (· == ',') text.toList).filter (!List.isEmpty ·)

/-- A filter that follows some directives. -/
def ofList (directives : List Directive) : Filter :=
  ⟨if directives.isEmpty then [.errorsOnly] else directives⟩

/-- The filter of a text, if all its directives are well formed. -/
def parse? (text : String) : Option Filter :=
  match (directiveTexts text).mapM Directive.parse with
  | .ok directives => some (ofList directives)
  | .error _ => none

/-- The complaint about a directive that is left out. -/
def complaint (text : List Char) (fault : DirectiveFault) : String :=
  "ignoring " ++ String.ofList ('\x60' :: text ++ ['\x60']) ++ ": " ++ fault.message

/-- The filter of those directives of a text that are well formed, and the complaints about the
others. -/
def parseLeniently (text : String) : Filter × List String :=
  let read := (directiveTexts text).map fun t => (t, Directive.parse t)
  (ofList (read.filterMap fun r => r.2.toOption),
    read.filterMap fun (t, outcome) =>
      match outcome with
      | .ok _ => none
      | .error fault => some (complaint t fault))

/-- The most special of the directives about an origin. -/
def directive? (f : Filter) (origin : String) : Option Directive :=
  (f.directives.filter (·.concerns origin)).foldl
    (fun best d =>
      match best with
      | none => some d
      | some b => if b.yields d then some d else some b)
    none

/-- Whether messages of an origin and a level are shown. -/
def shows (f : Filter) (origin : String) (level : Verbosity) : Bool :=
  ((f.directive? origin).map (·.bound.shows level)).getD false

end Filter

end CategoryFilter.Log
