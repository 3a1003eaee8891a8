/-
Settings with values.

A setting is kept as the JSON text of its value. Reading one fails if the text is not JSON or its value
is not of the type asked for.
-/

import CategoryFilter.Json.Fields
import CategoryFilter.Json.Reader
import CategoryFilter.Json.Writer
import CategoryFilter.Store.Database

namespace CategoryFilter

/-- A setting and its value. -/
structure Setting where
  key : String
  value : Json
deriving Repr

namespace Database

/-- Fail with a JSON error if there is no value. -/
def orJsonError {α : Type} : Option α → Action α
  | some a => return a
  | none => throw .json

/-- A setting, if it is stored. -/
def setting? (key : String) : Action (Option Setting) := do
  match ← settingText? key with
  | none => return none
  | some text => return some ⟨key, ← orJsonError ((Json.read text).bind Json.any?)⟩

/-- The value of a setting, or another value if it is not stored. -/
def settingOr {α : Type} (key : String) (absent : α) (value : Json → Option α) : Action α := do
  match ← setting? key with
  | none => return absent
  | some setting => orJsonError (value setting.value)

/-- Store the value of a setting. -/
def putSetting (key : String) (value : Json) : Action Unit :=
  putSettingText key value.render

end Database

/-- The JSON form of a setting. -/
def Setting.toJson (s : Setting) : Json :=
  .object [("key", .text s.key), ("value", s.value)]

/-- The setting of a JSON form. -/
def Setting.ofJson? (j : Json) : Option Setting := do
  let fields ← Json.record? ["key", "value"] j
  return ⟨← fields.required "key" Json.text?, ← fields.required "value" Json.any?⟩

/-- The JSON form of an entry of a sorted set. -/
def Entry.toJson (e : Entry) : Json :=
  .object [("member", .text e.member), ("score", .integer e.score.toInt)]

/-- The entry of a JSON form. -/
def Entry.ofJson? (j : Json) : Option Entry := do
  let fields ← Json.record? ["member", "score"] j
  return ⟨← fields.required "member" Json.text?, ← fields.required "score" Json.int64?⟩

end CategoryFilter
