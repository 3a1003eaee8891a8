/-
**Written values are read back, also from edited objects.**

For each kind of value its form says which of its fields may be absent: in a configuration all, each in place
of its standard value, in a definition all but the id, in a style the one beside the kind, and in the
answer of a filter the item.

* `ofJson?_toJson`, for each kind of value: it is read from its own object.
* `keeps_ofJson?`, for each kind of value: its reader does not notice edits.
* `ofFile_of_read`: a configuration in its ranges is read from a file.
* `codecs_lossless`: all of it, and a status with another name is an unknown one.
-/

import CategoryFilter.Config.Codec
import CategoryFilter.Event.Codec
import CategoryFilter.Proofs.Bytes
import CategoryFilter.Proofs.Json.Records
import CategoryFilter.Services.Message

namespace CategoryFilter

open Relation (ReflTransGen)
open Json (RecordEdit TaggedEdit ItemEdit Keeps Lossless Writable MembersWritable text? uint32? uint64?
  bind_of_some record?_of_names required_of_lookup optional_of_lookup)

/-! ### Numbers -/

theorem uint64?_ofUInt64 (n : UInt64) : uint64? (Config.ofUInt64 n) = some n := by
  have small := n.toNat_lt_size
  unfold UInt64.size at small
  simp [Config.ofUInt64, uint64?, UInt64.size]
  omega

theorem uint32?_ofUInt32 (n : UInt32) : uint32? (.integer n.toNat) = some n := by
  have small := n.toNat_lt_size
  unfold UInt32.size at small
  simp [uint32?, UInt32.size]
  omega

theorem writable_ofUInt64 (n : UInt64) (depth : Nat) : (Config.ofUInt64 n).Writable depth := by
  have small := n.toNat_lt_size
  unfold UInt64.size at small
  simp [Config.ofUInt64, Writable, Json.fits64]
  omega

theorem writable_ofUInt32 (n : UInt32) (depth : Nat) : (Json.integer n.toNat).Writable depth := by
  have small := n.toNat_lt_size
  unfold UInt32.size at small
  simp [Writable, Json.fits64]
  omega

/-! ### Strategies and styles -/

namespace Strategy

def form : Json.Form :=
  [("update_confirm_set", .required), ("check_cloud", .required), ("check_file", .required)]

theorem ofJson?_toJson (s : Strategy) : ofJson? s.toJson = some s :=
  rfl

theorem keeps_ofJson? : Keeps (RecordEdit form) ofJson? :=
  .record rfl (.bind (.required rfl) fun _ =>
    .bind (.required rfl) fun _ => .bind (.required rfl) fun _ => .pure _)

end Strategy

namespace Style

def kinds : String → Json.Form
  | "mirrored" => [("hash_set_id", .optional .null)]
  | "curated" => [("aliases", .optional (.texts []))]
  | _ => []

theorem ofJson?_toJson (s : Style) : ofJson? s.toJson = some s := by
  cases s with
  | mirrored hashSetId => cases hashSetId <;> rfl
  | curated aliases =>
    have tagged : Json.tagged? "kind" (curated aliases).toJson =
        some ("curated", .object [("aliases", .texts aliases)]) :=
      Json.tagged?_cons (by simp [Json.membersLegible, Json.isLegible_texts]) (by simp)
    exact bind_of_some tagged <| bind_of_some (record?_of_names rfl (by decide)) <|
      bind_of_some (optional_of_lookup rfl (Json.list?_texts _)) rfl

theorem keeps_ofJson? : Keeps (TaggedEdit "kind" kinds) ofJson? := by
  refine .tagged fun kind => ?_
  dsimp only
  split
  · exact .record rfl (.bind (.plain rfl rfl) fun _ => .pure _)
  · exact .record rfl (.bind (.plain rfl rfl) fun _ => .pure _)
  · exact fun _ _ _ _ impossible => nomatch impossible

end Style

/-! ### Definitions -/

namespace Definition

def form : Json.Form :=
  [("id", .required),
    ("strategy", ⟨some Strategy.standard.toJson, RecordEdit Strategy.form⟩),
    ("style", ⟨some Style.standard.toJson, TaggedEdit "kind" Style.kinds⟩),
    ("excluded_domains", .optional (.texts [])),
    ("active", .optional (.bool true))]

theorem ofJson?_toJson (d : Definition) : ofJson? d.toJson = some d := by
  unfold ofJson?
  exact bind_of_some (record?_of_names rfl (by decide)) <|
    bind_of_some (required_of_lookup rfl rfl) <|
    bind_of_some (optional_of_lookup rfl d.strategy.ofJson?_toJson) <|
    bind_of_some (optional_of_lookup rfl d.style.ofJson?_toJson) <|
    bind_of_some (optional_of_lookup rfl (Json.list?_texts _)) <|
    bind_of_some (optional_of_lookup rfl rfl) rfl

theorem writable_toJson {depth : Nat} (shallow : depth + 2 < Json.maxDepth) (d : Definition) :
    d.toJson.Writable depth := by
  have style : d.style.toJson.Writable (depth + 1) := by
    cases d.style with
    | mirrored hashSetId => exact ⟨by omega, trivial, Json.writable_optionalText _ _, trivial⟩
    | curated aliases => exact ⟨by omega, trivial, Json.writable_texts shallow _, trivial⟩
  exact ⟨by omega, trivial, ⟨by omega, trivial, trivial, trivial, trivial⟩, style,
    Json.writable_texts (by omega) _, trivial, trivial⟩

theorem keeps_ofJson? : Keeps (RecordEdit form) ofJson? :=
  .record rfl (.bind (.required rfl) fun _ =>
    .bind (.optional rfl rfl (Strategy.ofJson?_toJson _) Strategy.keeps_ofJson?) fun _ =>
    .bind (.optional rfl rfl (Style.ofJson?_toJson _) Style.keeps_ofJson?) fun _ =>
    .bind (.plain rfl rfl) fun _ =>
    .bind (.plain rfl rfl) fun _ => .pure _)

end Definition

/-! ### Configurations -/

namespace Config

def form : Json.Form :=
  [("enabled", .optional (.bool standard.enabled)),
    ("local_filter_url", .optional (.text standard.localFilterUrl)),
    ("cloud_url", .optional (.text standard.cloudUrl)),
    ("cloud_token", .optional (.optionalText standard.cloudToken)),
    ("list_dir", .optional (.text standard.listDir)),
    ("notify_url", .optional (.optionalText standard.notifyUrl)),
    ("request_timeout_ms", .optional (ofUInt64 standard.requestTimeoutMs)),
    ("confirm_interval_ms", .optional (ofUInt64 standard.confirmIntervalMs)),
    ("settle_delay_ms", .optional (ofUInt64 standard.settleDelayMs)),
    ("refresh_hour", .optional (.integer standard.refreshHour.toNat)),
    ("refresh_jitter_secs", .optional (ofUInt64 standard.refreshJitterSecs)),
    ("max_set_size", .optional (ofUInt64 standard.maxSetSize)),
    ("max_confirm_attempts", .optional (.integer standard.maxConfirmAttempts.toNat)),
    ("memo_capacity", .optional (ofUInt64 standard.memoCapacity)),
    ("memo_ttl_secs", .optional (ofUInt64 standard.memoTtlSecs)),
    ("categories", ⟨some (.array []), ItemEdit (RecordEdit Definition.form)⟩)]

theorem ofJson?_toJson (c : Config) : ofJson? c.toJson = some c := by
  have text {fields : Json.Fields} {name s absent : String} (found : fields.lookup name = some (.text s)) :
      fields.optional name absent text? = some s :=
    optional_of_lookup found rfl
  have number {fields : Json.Fields} {name : String} {n absent : UInt64}
      (found : fields.lookup name = some (ofUInt64 n)) : fields.optional name absent uint64? = some n :=
    optional_of_lookup found (uint64?_ofUInt64 n)
  unfold ofJson?
  exact bind_of_some (record?_of_names rfl (by decide)) <|
    bind_of_some (optional_of_lookup rfl rfl) <| bind_of_some (text rfl) <| bind_of_some (text rfl) <|
    bind_of_some (optional_of_lookup rfl (Json.optional?_optionalText _)) <| bind_of_some (text rfl) <|
    bind_of_some (optional_of_lookup rfl (Json.optional?_optionalText _)) <|
    bind_of_some (number rfl) <| bind_of_some (number rfl) <| bind_of_some (number rfl) <|
    bind_of_some (optional_of_lookup rfl (uint32?_ofUInt32 _)) <|
    bind_of_some (number rfl) <| bind_of_some (number rfl) <|
    bind_of_some (optional_of_lookup rfl (uint32?_ofUInt32 _)) <|
    bind_of_some (number rfl) <| bind_of_some (number rfl) <|
    bind_of_some (optional_of_lookup rfl (Json.list?_map Definition.ofJson?_toJson _)) rfl

theorem keeps_ofJson? : Keeps (RecordEdit form) ofJson? :=
  .record rfl (.bind (.plain rfl rfl) fun _ => .bind (.plain rfl rfl) fun _ =>
    .bind (.plain rfl rfl) fun _ => .bind (.plain rfl rfl) fun _ =>
    .bind (.plain rfl rfl) fun _ => .bind (.plain rfl rfl) fun _ =>
    .bind (.plain rfl (uint64?_ofUInt64 _)) fun _ => .bind (.plain rfl (uint64?_ofUInt64 _)) fun _ =>
    .bind (.plain rfl (uint64?_ofUInt64 _)) fun _ => .bind (.plain rfl (uint32?_ofUInt32 _)) fun _ =>
    .bind (.plain rfl (uint64?_ofUInt64 _)) fun _ => .bind (.plain rfl (uint64?_ofUInt64 _)) fun _ =>
    .bind (.plain rfl (uint32?_ofUInt32 _)) fun _ => .bind (.plain rfl (uint64?_ofUInt64 _)) fun _ =>
    .bind (.plain rfl (uint64?_ofUInt64 _)) fun _ =>
    .bind (.optional rfl rfl rfl (.items Definition.keeps_ofJson?)) fun _ => .pure _)

theorem writable_toJson (c : Config) : c.toJson.Writable 0 := by
  have optional := Json.writable_optionalText 1
  have number (n : UInt64) : (ofUInt64 n).Writable 1 := writable_ofUInt64 n 1
  have definition (d : Definition) : d.toJson.Writable 2 := Definition.writable_toJson (by decide) d
  exact ⟨by decide, trivial, trivial, trivial, optional _, trivial, optional _,
    number _, number _, number _, writable_ofUInt32 _ _, number _, number _, writable_ofUInt32 _ _,
    number _, number _, ⟨by decide, Json.itemsWritable_map definition _⟩, trivial⟩

/-- **A configuration in its ranges is read from a file** with the text of an edited object. -/
theorem ofFile_of_read {c : Config} (checked : c.validate = .ok ()) {j : Json} (read : ofJson? j = some c)
    {text : String} (written : Json.read text = some j) : ofFile (.ok text.toUTF8) = .ok c := by
  have taken : ofText text = .ok c := by
    unfold ofText
    rw [written, Option.bind_some, read]
    show c.validate.map _ = _
    rw [checked]
    rfl
  unfold ofFile
  dsimp only
  rw [Text.fromUTF8?_toUTF8]
  exact taken

end Config

/-! ### Events and notices -/

namespace Event

def kinds : String → Json.Form
  | "DOMAIN_DETECTED" => [("domain", .required)]
  | "FILTER_GENERATION_UPDATED" | "CATEGORY_DEACTIVATED" => [("category", .required)]
  | _ => []

theorem ofJson?_toJson (event : Event) : ofJson? event.toJson = some event := by
  cases event <;> rfl

theorem keeps_ofJson? : Keeps (TaggedEdit "type" kinds) ofJson? := by
  refine .tagged fun kind => ?_
  dsimp only
  split
  · exact .record rfl (.bind (.required rfl) fun _ => .pure _)
  · exact .record rfl (.bind (.required rfl) fun _ => .pure _)
  · exact .record rfl (.bind (.required rfl) fun _ => .pure _)
  · exact fun _ _ _ _ impossible => nomatch impossible

theorem writable_toJson (event : Event) : event.toJson.Writable 0 := by
  refine ⟨by decide, ?_⟩
  cases event <;> simp [Writable, MembersWritable]

end Event

namespace SetsChanged

def form : Json.Form :=
  [("category", .required)]

theorem ofJson?_toJson (n : SetsChanged) : ofJson? n.toJson = some n :=
  rfl

theorem keeps_ofJson? : Keeps (RecordEdit form) ofJson? :=
  .record rfl (.bind (.required rfl) fun _ => .pure _)

theorem writable_toJson (n : SetsChanged) : n.toJson.Writable 0 := by
  refine ⟨by decide, ?_⟩
  simp [Writable, MembersWritable]

end SetsChanged

namespace MatchReport

theorem ofJson?_toJson (report : MatchReport) : ofJson? report.toJson = some report :=
  rfl

theorem writable_toJson (report : MatchReport) : report.toJson.Writable 0 := by
  refine ⟨by decide, ?_⟩
  simp [Writable, MembersWritable]

end MatchReport

/-! ### Answers of a filter -/

namespace FilterResult

def form : Json.Form :=
  [("uid", .required), ("item", .optional (.text "")), ("status", .required)]

theorem ofJson?_toJson (r : FilterResult) : ofJson? r.toJson = some r := by
  obtain ⟨uid, item, status⟩ := r
  cases status <;> rfl

theorem keeps_ofJson? : Keeps (RecordEdit form) ofJson? :=
  .record rfl (.bind (.required rfl) fun _ => .bind (.plain rfl rfl) fun _ =>
    .bind (.required rfl) fun _ => .pure _)

theorem writable_toJson (r : FilterResult) : r.toJson.Writable 0 := by
  refine ⟨by decide, ?_⟩
  simp [Writable, MembersWritable]

/-- A status with another name is an unknown one. -/
theorem ofJson?_unknown {status : String} (other : status ≠ "Match" ∧ status ≠ "NoMatch")
    (uid item : String) :
    ofJson? (.object [("uid", .text uid), ("item", .text item), ("status", .text status)]) =
      some ⟨uid, item, .unknown⟩ := by
  have named : MatchStatus.ofName status = .unknown := by
    simp [MatchStatus.ofName, other]
  rw [← named]
  rfl

end FilterResult

/-! ### All of them -/

/-- **Written values are read back, also from edited objects.** A configuration in its ranges is read from each
file whose text is that of an edited object, and a filter's answer with a status of another name has an unknown
one. -/
theorem codecs_lossless :
    Lossless (RecordEdit Config.form) Config.toJson Config.ofJson? ∧
    (∀ c : Config, c.validate = .ok () →
      ∀ j, ReflTransGen (RecordEdit Config.form) c.toJson j →
        ∀ text, Json.read text = some j → Config.ofFile (.ok text.toUTF8) = .ok c) ∧
    Lossless (RecordEdit Definition.form) Definition.toJson Definition.ofJson? ∧
    Lossless (TaggedEdit "type" Event.kinds) Event.toJson Event.ofJson? ∧
    Lossless (RecordEdit SetsChanged.form) SetsChanged.toJson SetsChanged.ofJson? ∧
    Lossless (RecordEdit FilterResult.form) FilterResult.toJson FilterResult.ofJson? ∧
    ∀ uid item status, status ≠ "Match" ∧ status ≠ "NoMatch" →
      ∀ j, ReflTransGen (RecordEdit FilterResult.form)
        (.object [("uid", .text uid), ("item", .text item), ("status", .text status)]) j →
        FilterResult.ofJson? j = some ⟨uid, item, .unknown⟩ := by
  have configs : Lossless (RecordEdit Config.form) Config.toJson Config.ofJson? :=
    .intro Config.writable_toJson Config.ofJson?_toJson Config.keeps_ofJson?
  refine ⟨configs, fun c checked j edits text written => ?_,
    .intro (Definition.writable_toJson (by decide)) Definition.ofJson?_toJson Definition.keeps_ofJson?,
    .intro Event.writable_toJson Event.ofJson?_toJson Event.keeps_ofJson?,
    .intro SetsChanged.writable_toJson SetsChanged.ofJson?_toJson SetsChanged.keeps_ofJson?,
    .intro FilterResult.writable_toJson FilterResult.ofJson?_toJson FilterResult.keeps_ofJson?,
    fun uid item status other j edits => ?_⟩
  · exact Config.ofFile_of_read checked ((configs c).2 j edits) written
  · exact FilterResult.keeps_ofJson?.many edits (FilterResult.ofJson?_unknown other uid item)

/-- A curated category without aliases. -/
def gaming : Definition :=
  ⟨"games", .file, .curated [], ["a.com"], true⟩

/-- The same category: other members first, nothing about aliases and about being active, and a rank. -/
def gamingEdited : Json :=
  .object [("id", .text "games"), ("strategy", Strategy.file.toJson),
    ("style", .object [("rank", .integer 1), ("kind", .text "curated")]),
    ("excluded_domains", .texts ["a.com"])]

theorem edits_gaming : ReflTransGen (RecordEdit Definition.form) gaming.toJson gamingEdited := by
  have style : ReflTransGen (TaggedEdit "kind" Style.kinds) gaming.style.toJson
      (.object [("rank", .integer 1), ("kind", .text "curated")]) :=
    .head (.edit (.head _) (.reordered (.swap _ _ _)) rfl) <|
    .head (.edit (.tail _ (.head _)) (.dropped rfl rfl _) rfl) <|
    .single (.edit (.head _) (.added rfl (.integer 1) _) rfl)
  refine .head (.reordered (@List.perm_append_comm _ [_, _, _, _] [_])) ?_
  refine .head (.dropped rfl rfl _) ?_
  refine .head (.reordered (@List.perm_append_comm _ [_, _] [_, _])) ?_
  exact (Json.edits_inside rfl _ style).tail (.reordered (@List.perm_append_comm _ [_, _] [_, _]))

/-- A configuration with one category. -/
def gamingConfig : Config :=
  Config.standard.withCategory gaming

/-- The same configuration without standard values, and with a note. -/
def gamingConfigEdited : Json :=
  .object [("note", .null), ("categories", .array [gamingEdited])]

theorem edits_gamingConfig :
    ReflTransGen (RecordEdit Config.form) gamingConfig.toJson gamingConfigEdited := by
  -- The fields in front of the categories are in order, each with its standard value.
  iterate 15 refine .head (.dropped rfl rfl _) ?_
  exact (Json.edits_inside rfl _ (Json.edits_item [] [] edits_gaming)).tail (.added rfl _ _)

/-- The configuration is read from the text of the edited object, and a status in other letters is unknown. -/
theorem codecs_lossless_gaming :
    gamingConfig.validate = .ok () ∧
      ReflTransGen (RecordEdit Config.form) gamingConfig.toJson gamingConfigEdited ∧
      Json.read gamingConfigEdited.render = some gamingConfigEdited ∧
      Config.ofJson? gamingConfigEdited = some gamingConfig ∧
      Config.ofFile (.ok gamingConfigEdited.render.toUTF8) = .ok gamingConfig ∧
      FilterResult.ofJson? (.object [("status", .text "match"), ("uid", .text "category:games")]) =
        some ⟨"category:games", "", .unknown⟩ := by
  have checked : gamingConfig.validate = .ok () := by decide +kernel
  have category : gamingEdited.Writable 2 :=
    ⟨by decide, trivial, ⟨by decide, trivial, trivial, trivial, trivial⟩,
      ⟨by decide, show Json.fits64 1 = true by decide, trivial, trivial⟩,
      Json.writable_texts (by decide) _, trivial⟩
  have written : Json.read gamingConfigEdited.render = some gamingConfigEdited :=
    Json.read_render ⟨by decide, trivial, ⟨by decide, category, trivial⟩, trivial⟩
  obtain ⟨configs, files, -, -, -, -, unknown⟩ := codecs_lossless
  have edits : ReflTransGen (RecordEdit FilterResult.form)
      (.object [("uid", .text "category:games"), ("item", .text ""), ("status", .text "match")])
      (.object [("status", .text "match"), ("uid", .text "category:games")]) :=
    .head (.reordered (@List.perm_append_comm _ [_] [_, _])) <|
    .single (.dropped rfl rfl _)
  exact ⟨checked, edits_gamingConfig, written, (configs _).2 _ edits_gamingConfig, files _ checked _ edits_gamingConfig _ written,
    unknown _ _ _ (by decide) _ edits⟩

end CategoryFilter
