/-
The addresses of the services.

Each service has a path of its own below a configured base; slashes at the end of the base do not
count.
-/

import CategoryFilter.Text.Blank

namespace CategoryFilter.Endpoint

/-- A base without the slashes at its end. -/
def trimBase (base : String) : String :=
  String.ofList (Text.dropEnd (· == '/') base.toList)

/-- Where the local filter is asked. -/
def filter (base : String) : String :=
  trimBase base ++ "/check_filter"

/-- Where the members of a hash set are asked for. -/
def membership (base : String) : String :=
  trimBase base ++ "/intel/target_set/membership"

/-- Where the records about a domain are asked for. -/
def intel (base domain : String) : String :=
  trimBase base ++ "/intel/finger/" ++ domain

end CategoryFilter.Endpoint
