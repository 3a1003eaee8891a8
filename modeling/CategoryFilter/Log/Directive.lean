/-
Directives about the log.

A directive sets a bound for the messages of some origin. Its text is a bound alone, or an origin, a
span in brackets or both, and after an equals sign a bound. The brackets hold the span's name and,
in braces, a field, perhaps with a value. A directive about a span or a field's value concerns no
message outside of spans. Blanks around a directive do not count for its form, but they belong to its
words, so that no bound with a blank is known.
-/

import CategoryFilter.Log.Verbosity
import CategoryFilter.Text.Blank

namespace CategoryFilter.Log

/-- A directive. -/
structure Directive where
  /-- The beginning of the origins that it is about; all origins if there is none. -/
  origin : Option String
  bound : Verbosity
  /-- Whether it is about messages in spans only. -/
  inSpan : Bool
  /-- The fields that a message needs to have. -/
  fields : List String
deriving Repr, DecidableEq

/-- What is wrong with the text of a directive. -/
inductive DirectiveFault where
  | form
  | bound
deriving Repr, DecidableEq

/-- The wording of a fault. -/
def DirectiveFault.message : DirectiveFault → String
  | .form => "invalid filter directive"
  | .bound =>
    "error parsing level filter: expected one of \"off\", \"error\", \"warn\", \"info\", \"debug\", " ++
      "\"trace\", or a number 0-5"

namespace Directive

/-- The directive that is followed if there is no other: errors are shown. -/
def errorsOnly : Directive :=
  ⟨none, .error, false, []⟩

/-- Whether the text of a directive may begin with a character. -/
def isInitial (c : Char) : Bool :=
  c == '[' || c == '-' || c == ':' || c == '_' || c.isAlphanum || 0x80 ≤ c.toNat

/-- The bound after the equals sign; without one everything is shown. -/
def readBound (cs : List Char) : Except DirectiveFault Verbosity :=
  if cs.isEmpty then .ok .trace
  else
    match Verbosity.parse? cs with
    | some bound => .ok bound
    | none => .error .bound

/-- The end of a directive after its span. -/
def finish (origin : Option String) (inSpan : Bool) (fields : List String) (cs : List Char) :
    Except DirectiveFault Directive :=
  match cs with
  | '=' :: rest => (readBound rest).map (⟨origin, ·, inSpan, fields⟩)
  | _ => if cs.all Text.isBlank then .ok ⟨origin, .trace, inSpan, fields⟩ else .error .form

/-- The rest of a directive after a bracket was opened. -/
def readSpan (origin : Option String) (cs : List Char) : Except DirectiveFault Directive :=
  let ends (c : Char) : Bool := c == ']' || c == '\x7b'
  let name := cs.takeWhile (!ends ·)
  match cs.dropWhile (!ends ·) with
  | ']' :: rest => finish origin true [] rest
  | '\x7b' :: rest =>
    let field := rest.takeWhile (· != '\x7d')
    match rest.dropWhile (· != '\x7d') with
    | _ :: ']' :: rest =>
      if field.isEmpty then .error .form
      else
        let inSpan := !name.isEmpty || field.contains '='
        finish origin inSpan [String.ofList (field.takeWhile (· != '='))] rest
    | _ => .error .form
  | _ => .error .form

/-- A bound alone, or an origin without bound, all of whose messages are shown. -/
def ofWord (cs : List Char) : Directive :=
  match Verbosity.parse? cs with
  | some bound => ⟨none, bound, false, []⟩
  | none => ⟨some (String.ofList cs), .trace, false, []⟩

/-- The directive that a text is. -/
def read (cs : List Char) : Except DirectiveFault Directive :=
  let ends (c : Char) : Bool := c == '=' || c == '['
  let word := cs.takeWhile (!ends ·)
  match cs.dropWhile (!ends ·) with
  | [] => .ok (ofWord word)
  | c :: rest =>
    if c = '=' then (readBound rest).map (⟨some (String.ofList word), ·, false, []⟩)
    else readSpan (if word.isEmpty then none else some (String.ofList word)) rest

/-- Whether a text has a bound after its first word. -/
def hasBound (cs : List Char) : Bool :=
  (cs.find? fun c => c == '=' || c == '[') == some '='

/-- Read a directive's text. It has to begin with a fitting character, and a bound is not found behind
leading blanks. -/
def parse (cs : List Char) : Except DirectiveFault Directive :=
  match Text.trim cs with
  | [] => .error .form
  | c :: _ =>
    if !isInitial c then .error .form
    else if hasBound cs ∧ cs.head? ≠ some c then .error .bound
    else read cs

/-- Whether a directive is about messages of an origin that have a text and no other field. -/
def concerns (d : Directive) (origin : String) : Bool :=
  !d.inSpan && d.fields.all (· == "message") &&
    (d.origin.map fun start => start.toList.isPrefixOf origin.toList).getD true

/-- How special a directive is: a longer origin counts first, then the number of fields. -/
def rank (d : Directive) : Nat × Nat :=
  ((d.origin.map fun start => start.utf8ByteSize + 1).getD 0, d.fields.length)

/-- Whether a directive gives way to a later one: it is not more special. -/
def yields (earlier later : Directive) : Bool :=
  earlier.rank.1 < later.rank.1 ||
    (earlier.rank.1 == later.rank.1 && earlier.rank.2 ≤ later.rank.2)

end Directive

end CategoryFilter.Log
