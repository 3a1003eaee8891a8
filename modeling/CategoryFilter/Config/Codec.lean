/-
The configuration as JSON, and reading it from a file.

Every field may be absent and then has its standard value.
-/

import CategoryFilter.Category.Codec
import CategoryFilter.Config.Basic
import CategoryFilter.Json.Reader

namespace CategoryFilter.Config

open Json (bool? text? uint32? uint64? list? optional?)

/-- A 64-bit number as JSON. -/
def ofUInt64 (n : UInt64) : Json :=
  .integer n.toNat

/-- The JSON form of a configuration. -/
def toJson (c : Config) : Json :=
  .object [
    ("enabled", .bool c.enabled),
    ("local_filter_url", .text c.localFilterUrl),
    ("cloud_url", .text c.cloudUrl),
    ("cloud_token", .optionalText c.cloudToken),
    ("list_dir", .text c.listDir),
    ("notify_url", .optionalText c.notifyUrl),
    ("request_timeout_ms", ofUInt64 c.requestTimeoutMs),
    ("confirm_interval_ms", ofUInt64 c.confirmIntervalMs),
    ("settle_delay_ms", ofUInt64 c.settleDelayMs),
    ("refresh_hour", .integer c.refreshHour.toNat),
    ("refresh_jitter_secs", ofUInt64 c.refreshJitterSecs),
    ("max_set_size", ofUInt64 c.maxSetSize),
    ("max_confirm_attempts", .integer c.maxConfirmAttempts.toNat),
    ("memo_capacity", ofUInt64 c.memoCapacity),
    ("memo_ttl_secs", ofUInt64 c.memoTtlSecs),
    ("categories", .array (c.categories.map Definition.toJson))]

/-- The names of the fields in their order. -/
def fieldNames : List String :=
  ["enabled", "local_filter_url", "cloud_url", "cloud_token", "list_dir", "notify_url",
    "request_timeout_ms", "confirm_interval_ms", "settle_delay_ms", "refresh_hour",
    "refresh_jitter_secs", "max_set_size", "max_confirm_attempts", "memo_capacity", "memo_ttl_secs",
    "categories"]

/-- The configuration of a JSON form. -/
def ofJson? (j : Json) : Option Config := do
  let fields ← Json.record? fieldNames j
  return {
    enabled := ← fields.optional "enabled" standard.enabled bool?
    localFilterUrl := ← fields.optional "local_filter_url" standard.localFilterUrl text?
    cloudUrl := ← fields.optional "cloud_url" standard.cloudUrl text?
    cloudToken := ← fields.optional "cloud_token" standard.cloudToken (optional? text?)
    listDir := ← fields.optional "list_dir" standard.listDir text?
    notifyUrl := ← fields.optional "notify_url" standard.notifyUrl (optional? text?)
    requestTimeoutMs :=
      ← fields.optional "request_timeout_ms" standard.requestTimeoutMs uint64?
    confirmIntervalMs :=
      ← fields.optional "confirm_interval_ms" standard.confirmIntervalMs uint64?
    settleDelayMs := ← fields.optional "settle_delay_ms" standard.settleDelayMs uint64?
    refreshHour := ← fields.optional "refresh_hour" standard.refreshHour uint32?
    refreshJitterSecs :=
      ← fields.optional "refresh_jitter_secs" standard.refreshJitterSecs uint64?
    maxSetSize := ← fields.optional "max_set_size" standard.maxSetSize uint64?
    maxConfirmAttempts :=
      ← fields.optional "max_confirm_attempts" standard.maxConfirmAttempts uint32?
    memoCapacity := ← fields.optional "memo_capacity" standard.memoCapacity uint64?
    memoTtlSecs := ← fields.optional "memo_ttl_secs" standard.memoTtlSecs uint64?
    categories :=
      ← fields.optional "categories" standard.categories (list? Definition.ofJson?) }

/-- The configuration written in a text, if it is one and its values are in range. -/
def ofText (text : String) : Except Failure Config :=
  match (Json.read text).bind ofJson? with
  | none => .error .json
  | some c => c.validate.map fun _ => c

/-- The configuration in the content of a file. -/
def ofFile (content : Except FileError ByteArray) : Except Failure Config :=
  match content with
  | .error cause => .error (.io cause)
  | .ok bytes =>
    match String.fromUTF8? bytes with
    | none => .error (.io .notUtf8)
    | some text => ofText text

end CategoryFilter.Config
