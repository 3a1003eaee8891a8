/-
The configuration of the pipeline: its fields, their standard values and the check of their ranges.
-/

import CategoryFilter.Category.Registry
import CategoryFilter.Failure
import CategoryFilter.Text.Quoted

namespace CategoryFilter

/-- The configuration of the pipeline. Durations are in the unit that their name ends with. -/
structure Config where
  /-- Whether the feature is on until somebody switches it. -/
  enabled : Bool
  localFilterUrl : String
  cloudUrl : String
  cloudToken : Option String
  /-- The directory of the list files. -/
  listDir : String
  /-- Where notices about changed sets are forwarded to. -/
  notifyUrl : Option String
  requestTimeoutMs : UInt64
  confirmIntervalMs : UInt64
  /-- The wait before a refresh looks at anything. -/
  settleDelayMs : UInt64
  /-- The local hour of the nightly refresh. -/
  refreshHour : UInt32
  /-- The bound of the random delay of the nightly refresh. -/
  refreshJitterSecs : UInt64
  /-- The number of members that each set keeps. -/
  maxSetSize : UInt64
  /-- Failures after which a candidate is dropped. -/
  maxConfirmAttempts : UInt32
  memoCapacity : UInt64
  memoTtlSecs : UInt64
  categories : List Definition
deriving Repr, DecidableEq

namespace Config

/-- The configuration that nobody wrote. -/
def standard : Config where
  enabled := true
  localFilterUrl := "http://127.0.0.1:9964"
  cloudUrl := "https://intel.catwatch.io/v2"
  cloudToken := none
  listDir := "/var/lib/catwatch/category"
  notifyUrl := none
  requestTimeoutMs := 5000
  confirmIntervalMs := 2000
  settleDelayMs := 3000
  refreshHour := 3
  refreshJitterSecs := 7200
  maxSetSize := 20000
  maxConfirmAttempts := 3
  memoCapacity := 1000
  memoTtlSecs := 10
  categories := []

/-! ### Durations in milliseconds -/

def requestTimeout (c : Config) : Nat := c.requestTimeoutMs.toNat
def confirmInterval (c : Config) : Nat := c.confirmIntervalMs.toNat
def settleDelay (c : Config) : Nat := c.settleDelayMs.toNat
def refreshJitter (c : Config) : Nat := c.refreshJitterSecs.toNat * 1000
def memoTtl (c : Config) : Nat := c.memoTtlSecs.toNat * 1000

/-! ### Ranges -/

/-- Whether an id may name a category: it is not empty and holds no slash, backslash or colon. -/
def isValidId (id : String) : Bool :=
  !id.isEmpty && !id.toList.any fun c => c == '/' || c == '\\' || c == ':'

/-- Refuse a configuration with a value out of its range. -/
def validate (c : Config) : Except Failure Unit :=
  if 23 < c.refreshHour then
    .error (.config ("refresh_hour must be 0-23, got " ++ toString c.refreshHour.toNat))
  else if c.maxSetSize = 0 then .error (.config "max_set_size must be positive")
  else if c.confirmIntervalMs = 0 then .error (.config "confirm_interval_ms must be positive")
  else
    match c.categories.find? fun d => !isValidId d.id with
    | some d => .error (.config ("invalid category id: " ++ Text.quoted d.id))
    | none => .ok ()

/-! ### Building -/

/-- Set the settle delay to a duration in microseconds, without its part below a millisecond. -/
def withSettleDelay (c : Config) (micros : Nat) : Config :=
  { c with settleDelayMs := UInt64.ofNat (micros / 1000) }

/-- Add a category. -/
def withCategory (c : Config) (d : Definition) : Config :=
  { c with categories := c.categories ++ [d] }

end Config

end CategoryFilter
