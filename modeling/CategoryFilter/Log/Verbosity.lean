/-
How much of the log is shown.

A message has a level, and a bound shows the messages up to a level. Bounds are named in any mixture of
cases, or numbered from zero for nothing to five for everything.
-/

import CategoryFilter.Text.LowerCase

namespace CategoryFilter.Log

/-- A bound for the levels that are shown. A message has any level but `off`. -/
inductive Verbosity where
  | off
  | error
  | warn
  | info
  | debug
  | trace
deriving Repr, DecidableEq

namespace Verbosity

/-- The number of a bound. -/
def rank : Verbosity → Nat
  | off => 0
  | error => 1
  | warn => 2
  | info => 3
  | debug => 4
  | trace => 5

/-- Whether a bound shows messages of a level. -/
def shows (bound level : Verbosity) : Bool :=
  level.rank ≤ bound.rank

/-- All bounds with their names, in the order of their numbers. -/
def named : List (String × Verbosity) :=
  [("off", off), ("error", error), ("warn", warn), ("info", info), ("debug", debug),
    ("trace", trace)]

/-- The bound with a number: digits, perhaps after a plus sign. -/
def ofNumber? (cs : List Char) : Option Verbosity :=
  let digits := if cs.head? = some '+' then cs.tail else cs
  if digits.isEmpty ∨ digits.any (!Char.isDigit ·) then none
  else
    (named[digits.foldl (fun n c => n * 10 + (c.toNat - 0x30)) 0]?).map Prod.snd

/-- The bound that a text names. The empty text names `error`. -/
def parse? (cs : List Char) : Option Verbosity :=
  if cs.isEmpty then some error
  else ofNumber? cs <|> named.lookup (String.ofList (Text.lowerAscii cs))

end Verbosity

end CategoryFilter.Log
