/-
Strategies, styles and definitions as JSON.

A strategy has to be complete. A style carries its kind as `kind`, and its other field may be absent. In
a definition only the id has to be there.
-/

import CategoryFilter.Category.Registry
import CategoryFilter.Json.Fields

namespace CategoryFilter

open Json (bool? text? list? optional?)

/-- The JSON form of a strategy. -/
def Strategy.toJson (s : Strategy) : Json :=
  .object [("update_confirm_set", .bool s.updateConfirmSet), ("check_cloud", .bool s.checkCloud),
    ("check_file", .bool s.checkFile)]

/-- The strategy of a JSON form. -/
def Strategy.ofJson? (j : Json) : Option Strategy := do
  let fields ← Json.record? ["update_confirm_set", "check_cloud", "check_file"] j
  return ⟨← fields.required "update_confirm_set" bool?, ← fields.required "check_cloud" bool?,
    ← fields.required "check_file" bool?⟩

/-- The JSON form of a style. -/
def Style.toJson : Style → Json
  | .mirrored hashSetId =>
    .object [("kind", .text "mirrored"), ("hash_set_id", .optionalText hashSetId)]
  | .curated aliases => .object [("kind", .text "curated"), ("aliases", .texts aliases)]

/-- The style of a JSON form. -/
def Style.ofJson? (j : Json) : Option Style := do
  let (kind, rest) ← Json.tagged? "kind" j
  match kind with
  | "mirrored" =>
    let fields ← Json.record? ["hash_set_id"] rest
    return .mirrored (← fields.optional "hash_set_id" none (optional? text?))
  | "curated" =>
    let fields ← Json.record? ["aliases"] rest
    return .curated (← fields.optional "aliases" [] (list? text?))
  | _ => none

/-- The JSON form of a definition. -/
def Definition.toJson (d : Definition) : Json :=
  .object [("id", .text d.id), ("strategy", d.strategy.toJson), ("style", d.style.toJson),
    ("excluded_domains", .texts d.excludedDomains), ("active", .bool d.active)]

/-- The definition of a JSON form. -/
def Definition.ofJson? (j : Json) : Option Definition := do
  let fields ← Json.record? ["id", "strategy", "style", "excluded_domains", "active"] j
  return ⟨← fields.required "id" text?,
    ← fields.optional "strategy" .standard Strategy.ofJson?,
    ← fields.optional "style" .standard Style.ofJson?,
    ← fields.optional "excluded_domains" [] (list? text?),
    ← fields.optional "active" true bool?⟩

end CategoryFilter
