/-
When the nightly refresh runs.

It runs at a fixed local hour, on the hour. `nextNightly?` looks at the local date of an instant and the
two dates after it, and takes the first on which the hour comes after the instant; a date on which the
clock skips the hour is passed over. Instants are in milliseconds.
-/

import CategoryFilter.Schedule.Zone

namespace CategoryFilter

/-- The local date of an instant, in days. -/
def Zone.date (z : Zone) (instant : Int) : Int :=
  z.localTime (instant / 1000) / 86400

/-- The instant at which an hour begins on a date, if it does. -/
def Zone.hourOn? (z : Zone) (date : Int) (hour : Nat) : Option Int :=
  (z.earliest? (date * 86400 + hour * 3600)).map (· * 1000)

/-- The first instant after `now` at which the hour begins, on one of three dates. -/
def nextNightly? (z : Zone) (now : Int) (hour : Nat) : Option Int :=
  if 23 < hour then none
  else ([0, 1, 2].filterMap fun later => z.hourOn? (z.date now + later) hour).find? (now < ·)

/-- A random delay: none if the bound, in 64 bits, is below a millisecond, else the given number of
milliseconds, brought below the bound. -/
def jitterDelay (bound random : Nat) : Nat :=
  let bound := bound % UInt64.size
  if bound = 0 then 0 else random % bound

end CategoryFilter
