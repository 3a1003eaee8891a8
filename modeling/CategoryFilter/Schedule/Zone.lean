/-
Time zones: the offset of local time from universal time, which changes at given seconds.

A local time may be read at two instants, when clocks go back, or at none, when they go forward.
`earliest?` gives the first instant that reads a local time. Local times are counted in seconds as if
the local clock showed universal time.
-/

namespace CategoryFilter

/-- A time zone: an offset in seconds east, and the seconds from which other offsets apply, ascending. -/
structure Zone where
  base : Int
  transitions : List (Int × Int)
deriving Repr, DecidableEq

namespace Zone

/-- Universal time. -/
def utc : Zone := ⟨0, []⟩

/-- The offset in force at a second. -/
def offsetAt (z : Zone) (second : Int) : Int :=
  z.transitions.foldl (fun offset change => if change.1 ≤ second then change.2 else offset) z.base

/-- The local time at a second. -/
def localTime (z : Zone) (second : Int) : Int :=
  second + z.offsetAt second

/-- Every offset that the zone ever has. -/
def offsets (z : Zone) : List Int :=
  z.base :: z.transitions.map Prod.snd

/-- The seconds that read a local time. -/
def instants (z : Zone) (reading : Int) : List Int :=
  (z.offsets.map (reading - ·)).filter fun second => z.localTime second = reading

/-- The first second that reads a local time, if any does. -/
def earliest? (z : Zone) (reading : Int) : Option Int :=
  (z.instants reading).min?

end Zone

end CategoryFilter
