/-
**Which record decides on a key.**

The origins that cover a key have bases which are ends of the key's base, so the size of such a base tells
which one it is. Of the records that cover a key the most specific one `Decides`, the last of several.

* `originCovers_iff`: an origin covers a key as the key itself, as a wildcard or as a name above it.
* `base_eq_of_size`: covering origins with bases of one size have one base.
* `resolves_iff`: a key is accepted if the record that decides on it is.
* `resolves_filter`: records that are `Idle`, since they do not cover the key or are less specific, may be left
  out.
* `resolves_of_perm`: nor does the order of the records matter, as long as those with the same base agree.
* `specificity_decides`: all of it.
-/

import CategoryFilter.Confirm.Intel
import CategoryFilter.Proofs.Coverage
import Mathlib.Data.List.Infix

namespace CategoryFilter

/-! ### The origins that cover a key -/

namespace Domain

theorem base_of_literal {pattern : String} (literal : isWildcard pattern = false) :
    base pattern = pattern := by
  unfold base
  split
  · next rest chars => simp [isWildcard, chars, List.isPrefixOf] at literal
  · rfl

/-- A base is an end of its pattern. -/
theorem base_suffix (pattern : String) : (base pattern).toList <:+ pattern.toList := by
  unfold base
  split
  · next rest chars =>
    rw [chars, String.toList_ofList]
    exact List.suffix_append ['*', '.'] rest
  · exact List.suffix_refl _

end Domain

namespace Confirm

open Domain (base isWildcard covered)

variable {origin key : String} {records others before after : List IntelRecord}
  {record other : IntelRecord} {accepted : List String}

theorem isBelow_iff {domain name : String} :
    isBelow domain name = true ↔ ∃ front, domain = front ++ "." ++ name := by
  rw [isBelow, List.isSuffixOf_iff_suffix]
  exact Domain.suffix_iff_exists

/-- **An origin covers a key** as the key itself, as a wildcard over the key's base, or as a name that the
base is or lies below. -/
theorem originCovers_iff : originCovers origin key = true ↔ origin = key ∨
    (isWildcard origin = true ∧ covered (base key) origin = true) ∨
    (isWildcard origin = false ∧
      (base key = origin ∨ ∃ front, base key = front ++ "." ++ origin)) := by
  unfold originCovers
  split
  · next same => simp [same]
  · next other =>
    cases form : isWildcard origin with
    | true => simp [other]
    | false => simp [other, isBelow_iff]

/-- **The base of an origin that covers a key is an end of the key's base.** -/
theorem base_suffix_of_covers (covers : originCovers origin key = true) :
    (base origin).toList <:+ (base key).toList := by
  rcases originCovers_iff.mp covers with rfl | ⟨-, wide⟩ | ⟨literal, above⟩
  · exact List.suffix_refl _
  · rcases Domain.covered_iff.mp wide with same | listed
    · rw [same]
      exact Domain.base_suffix origin
    · obtain ⟨rest, ends, -, rfl⟩ := Domain.mem_wildcards.mp listed
      rw [Domain.base_wildcardOver, String.toList_ofList]
      exact (List.suffix_cons _ rest).trans ends
  · rw [Domain.base_of_literal literal]
    rcases above with same | below
    · rw [same]
    · exact (List.suffix_cons _ _).trans (Domain.suffix_iff_exists.mpr below)

/-- An end of a text that is as long is the text. -/
theorem eq_of_suffix_of_size {first second : String} (ends : first.toList <:+ second.toList)
    (same : first.utf8ByteSize = second.utf8ByteSize) : first = second := by
  obtain ⟨front, whole⟩ := ends
  have joined : second = String.ofList front ++ first := by
    rw [← String.toList_inj]
    simp [whole]
  rw [joined, String.utf8ByteSize_append] at same
  have none : String.ofList front = "" := String.utf8ByteSize_eq_zero_iff.mp (by omega)
  rw [joined, none, String.empty_append]

/-- **Origins that cover one key have one base if their bases are as long.** -/
theorem base_eq_of_size {first second : String} (one : originCovers first key = true)
    (two : originCovers second key = true)
    (same : (base first).utf8ByteSize = (base second).utf8ByteSize) : base first = base second := by
  rcases List.suffix_or_suffix_of_suffix (base_suffix_of_covers one) (base_suffix_of_covers two) with
    ends | ends
  · exact eq_of_suffix_of_size ends same
  · exact (eq_of_suffix_of_size ends same.symm).symm

/-! ### The most specific record -/

theorem mostSpecific?_eq_none (none : mostSpecific? records = none) : records = [] := by
  cases records with
  | nil => rfl
  | cons first rest =>
    unfold mostSpecific? at none
    split at none <;> cases none

/-- The most specific record is as specific as those before it and more so than those after it. -/
theorem exists_of_mostSpecific? (found : mostSpecific? records = some record) :
    ∃ before after, records = before ++ record :: after ∧
      (∀ other ∈ before, specificity other ≤ specificity record) ∧
      ∀ other ∈ after, specificity other < specificity record := by
  induction records generalizing record with
  | nil => cases found
  | cons first rest ih =>
    unfold mostSpecific? at found
    cases later : mostSpecific? rest with
    | none =>
      rw [later] at found
      cases found
      rw [mostSpecific?_eq_none later]
      exact ⟨[], [], rfl, by simp, by simp⟩
    | some best =>
      rw [later] at found
      obtain ⟨before, after, split, lower, less⟩ := ih later
      dsimp only at found
      split at found
      · next beaten =>
        cases found
        refine ⟨[], rest, rfl, by simp, fun other listed => ?_⟩
        rw [split, List.mem_append, List.mem_cons] at listed
        rcases listed with listed | rfl | listed
        · exact (lower other listed).trans_lt beaten
        · exact beaten
        · exact (less other listed).trans beaten
      · next unbeaten =>
        cases found
        refine ⟨first :: before, after, by rw [split]; rfl, fun other listed => ?_, less⟩
        rcases List.mem_cons.mp listed with rfl | listed
        · exact Nat.not_lt.mp unbeaten
        · exact lower other listed

/-- Such a record is the most specific one. -/
theorem mostSpecific?_append (lower : ∀ other ∈ before, specificity other ≤ specificity record)
    (less : ∀ other ∈ after, specificity other < specificity record) :
    mostSpecific? (before ++ record :: after) = some record := by
  induction before with
  | nil =>
    show mostSpecific? (record :: after) = some record
    unfold mostSpecific?
    cases later : mostSpecific? after with
    | none => rfl
    | some best =>
      obtain ⟨_, _, rfl, -, -⟩ := exists_of_mostSpecific? later
      dsimp only
      rw [if_pos (less best (by simp))]
  | cons first before ih =>
    show mostSpecific? (first :: (before ++ record :: after)) = some record
    unfold mostSpecific?
    rw [ih fun other listed => lower other (List.mem_cons_of_mem _ listed)]
    dsimp only
    rw [if_neg (Nat.not_lt.mpr (lower first List.mem_cons_self))]

/-- A record covers a key, no other one of a list that covers it is more specific, and none after it is as
specific. -/
def Decides (records : List IntelRecord) (key : String) (record : IntelRecord) : Prop :=
  ∃ before after, records = before ++ record :: after ∧ originCovers record.origin key = true ∧
    (∀ other ∈ before, originCovers other.origin key = true →
      specificity other ≤ specificity record) ∧
    ∀ other ∈ after, originCovers other.origin key = true → specificity other < specificity record

theorem decides_iff : Decides records key record ↔
    mostSpecific? (records.filter fun r => originCovers r.origin key) = some record := by
  constructor
  · rintro ⟨before, after, rfl, covers, lower, less⟩
    rw [List.filter_append, List.filter_cons, if_pos covers]
    refine mostSpecific?_append (fun other listed => ?_) fun other listed => ?_
    · obtain ⟨listed, covering⟩ := List.mem_filter.mp listed
      exact lower other listed covering
    · obtain ⟨listed, covering⟩ := List.mem_filter.mp listed
      exact less other listed covering
  · intro found
    obtain ⟨front, back, split, lower, less⟩ := exists_of_mostSpecific? found
    obtain ⟨before, middle, rfl, rfl, rest⟩ := List.filter_eq_append_iff.mp split
    obtain ⟨idle, after, rfl, skipped, covers, rfl⟩ := List.filter_eq_cons_iff.mp rest
    refine ⟨before ++ idle, after, by simp, covers, fun other listed covering => ?_,
      fun other listed covering => less other (List.mem_filter.mpr ⟨listed, covering⟩)⟩
    rcases List.mem_append.mp listed with listed | listed
    · exact lower other (List.mem_filter.mpr ⟨listed, covering⟩)
    · exact absurd covering (skipped other listed)

theorem exists_decides (listed : record ∈ records) (covers : originCovers record.origin key = true) :
    ∃ best, Decides records key best := by
  cases found : mostSpecific? (records.filter fun r => originCovers r.origin key) with
  | some best => exact ⟨best, decides_iff.mpr found⟩
  | none =>
    have held : record ∈ records.filter fun r => originCovers r.origin key :=
      List.mem_filter.mpr ⟨listed, covers⟩
    rw [mostSpecific?_eq_none found] at held
    cases held

/-- **A key is accepted if the record that decides on it is.** -/
theorem resolves_iff : resolves records key accepted = true ↔
    ∃ record, Decides records key record ∧ record.category ∈ accepted := by
  unfold resolves
  simp only [decides_iff]
  cases mostSpecific? (records.filter fun r => originCovers r.origin key) with
  | none => simp
  | some best => simp

namespace Decides

theorem mem (decides : Decides records key record) : record ∈ records := by
  obtain ⟨before, after, rfl, -⟩ := decides
  simp

theorem covers (decides : Decides records key record) : originCovers record.origin key = true := by
  obtain ⟨before, after, -, covers, -⟩ := decides
  exact covers

/-- A record that covers the key is no more specific than the one that decides. -/
theorem specificity_le (decides : Decides records key record) (listed : other ∈ records)
    (covering : originCovers other.origin key = true) : specificity other ≤ specificity record := by
  obtain ⟨before, after, rfl, -, lower, less⟩ := decides
  rw [List.mem_append, List.mem_cons] at listed
  rcases listed with listed | rfl | listed
  · exact lower other listed covering
  · exact Nat.le_refl _
  · exact (less other listed covering).le

theorem unique (first : Decides records key record) (second : Decides records key other) :
    record = other :=
  Option.some.inj ((decides_iff.mp first).symm.trans (decides_iff.mp second))

end Decides

/-! ### Records that do not matter -/

/-- A record does not cover a key, or one of a list that covers it is more specific. -/
def Idle (records : List IntelRecord) (key : String) (record : IntelRecord) : Prop :=
  originCovers record.origin key = false ∨
    ∃ other ∈ records, originCovers other.origin key = true ∧ specificity record < specificity other

instance (records : List IntelRecord) (key : String) (record : IntelRecord) :
    Decidable (Idle records key record) :=
  inferInstanceAs (Decidable (_ ∨ _))

theorem Decides.not_idle (decides : Decides records key record) : ¬ Idle records key record := by
  rintro (uncovering | ⟨other, listed, covers, less⟩)
  · exact Bool.eq_false_iff.mp uncovering decides.covers
  · exact Nat.not_le.mpr less (decides.specificity_le listed covers)

/-- The record that decides still does so if others are left out. -/
theorem Decides.filter {keep : IntelRecord → Bool} (decides : Decides records key record)
    (kept : keep record = true) : Decides (records.filter keep) key record := by
  obtain ⟨before, after, rfl, covers, lower, less⟩ := decides
  refine ⟨before.filter keep, after.filter keep, ?_, covers,
    fun other listed => lower other (List.mem_of_mem_filter listed),
    fun other listed => less other (List.mem_of_mem_filter listed)⟩
  rw [List.filter_append, List.filter_cons, if_pos kept]

/-- **Idle records may be left out.** -/
theorem resolves_filter {keep : IntelRecord → Bool}
    (idle : ∀ record ∈ records, keep record = false → Idle records key record)
    (accepted : List String) :
    resolves (records.filter keep) key accepted = resolves records key accepted := by
  rw [Bool.eq_iff_iff, resolves_iff, resolves_iff]
  have kept {best : IntelRecord} (decides : Decides records key best) : keep best = true := by
    by_contra dropped
    exact decides.not_idle (idle best decides.mem (Bool.eq_false_iff.mpr dropped))
  constructor
  · rintro ⟨record, decides, accept⟩
    obtain ⟨best, whole⟩ := exists_decides (List.mem_of_mem_filter decides.mem) decides.covers
    exact ⟨best, whole, decides.unique (whole.filter (kept whole)) ▸ accept⟩
  · rintro ⟨record, decides, accept⟩
    exact ⟨record, decides.filter (kept decides), accept⟩

/-! ### The order of the records -/

/-- Records that cover a key and have the same base are accepted together or not at all. -/
def Agreeing (records : List IntelRecord) (key : String) (accepted : List String) : Prop :=
  ∀ first ∈ records, ∀ second ∈ records, originCovers first.origin key = true →
    originCovers second.origin key = true → base first.origin = base second.origin →
    (first.category ∈ accepted ↔ second.category ∈ accepted)

instance (records : List IntelRecord) (key : String) (accepted : List String) :
    Decidable (Agreeing records key accepted) :=
  inferInstanceAs (Decidable (∀ first ∈ records, _))

theorem resolves_of_perm (order : records.Perm others) (agreeing : Agreeing records key accepted)
    (resolved : resolves records key accepted = true) : resolves others key accepted = true := by
  obtain ⟨record, decides, accept⟩ := resolves_iff.mp resolved
  obtain ⟨best, decides'⟩ := exists_decides (order.mem_iff.mp decides.mem) decides.covers
  have listed : best ∈ records := order.mem_iff.mpr decides'.mem
  have size : specificity record = specificity best :=
    (decides'.specificity_le (order.mem_iff.mp decides.mem) decides.covers).antisymm
      (decides.specificity_le listed decides'.covers)
  have same : base record.origin = base best.origin :=
    base_eq_of_size decides.covers decides'.covers size
  exact resolves_iff.mpr ⟨best, decides',
    (agreeing record decides.mem best listed decides.covers decides'.covers same).mp accept⟩

theorem Agreeing.perm (agreeing : Agreeing records key accepted) (order : records.Perm others) :
    Agreeing others key accepted := fun first one second two =>
  agreeing first (order.mem_iff.mpr one) second (order.mem_iff.mpr two)

/-- **The most specific record that covers a key decides on it.** An origin covers a key as the key itself,
as a wildcard over its base, or as a name that its base is or lies below; origins that cover one key and
have bases of one size have the same base. A key is resolved exactly if a record covers it and the last of
the most specific ones that do has an accepted category. So records that do not cover the key or are less
specific may be added, removed and moved, and the order of the records does not matter as long as covering
ones with the same base agree on being accepted. -/
theorem specificity_decides (key : String) :
    (∀ origin, originCovers origin key = true ↔ origin = key ∨
      (isWildcard origin = true ∧ covered (base key) origin = true) ∨
      (isWildcard origin = false ∧
        (base key = origin ∨ ∃ front, base key = front ++ "." ++ origin))) ∧
    (∀ first second, originCovers first key = true → originCovers second key = true →
      (base first).utf8ByteSize = (base second).utf8ByteSize → base first = base second) ∧
    ∀ records accepted,
      (resolves records key accepted = true ↔ ∃ before record after,
        records = before ++ record :: after ∧ originCovers record.origin key = true ∧
        (∀ other ∈ before, originCovers other.origin key = true →
          (base other.origin).utf8ByteSize ≤ (base record.origin).utf8ByteSize) ∧
        (∀ other ∈ after, originCovers other.origin key = true →
          (base other.origin).utf8ByteSize < (base record.origin).utf8ByteSize) ∧
        record.category ∈ accepted) ∧
      (∀ others (keep : IntelRecord → Bool),
        (∀ record ∈ records, keep record = false → Idle records key record) →
        (∀ record ∈ others, keep record = false → Idle others key record) →
        others.filter keep = records.filter keep →
        resolves others key accepted = resolves records key accepted) ∧
      ∀ others, records.Perm others → Agreeing records key accepted →
        resolves others key accepted = resolves records key accepted := by
  refine ⟨fun origin => originCovers_iff, fun first second => base_eq_of_size,
    fun records accepted => ⟨?_, fun others keep idle idle' same => ?_,
      fun others order agreeing => ?_⟩⟩
  · rw [resolves_iff]
    constructor
    · rintro ⟨record, ⟨before, after, split, covers, lower, less⟩, accept⟩
      exact ⟨before, record, after, split, covers, lower, less, accept⟩
    · rintro ⟨before, record, after, split, covers, lower, less, accept⟩
      exact ⟨record, ⟨before, after, split, covers, lower, less⟩, accept⟩
  · rw [← resolves_filter idle', same, resolves_filter idle]
  · rw [Bool.eq_iff_iff]
    exact ⟨resolves_of_perm order.symm (agreeing.perm order), resolves_of_perm order agreeing⟩

/-- A general record, and two that are more specific and alike. -/
def adverts : List IntelRecord :=
  [⟨"example.com", "news"⟩, ⟨"ads.example.com", "ad"⟩, ⟨"*.ads.example.com", "ad"⟩]

/-- The general record moved to the end, and a record of another name among the specific ones. -/
def advertsMoved : List IntelRecord :=
  [⟨"ads.example.com", "ad"⟩, ⟨"other.com", "news"⟩, ⟨"*.ads.example.com", "ad"⟩,
    ⟨"example.com", "news"⟩]

/-- The specific records of an advertiser decide, wherever they stand. -/
theorem specificity_decides_adverts :
    let key := "x.ads.example.com"
    let keep := fun record : IntelRecord => record.category == "ad"
    originCovers "ads.example.com" key = true ∧ originCovers "*.ads.example.com" key = true ∧
      (base "ads.example.com").utf8ByteSize = (base "*.ads.example.com").utf8ByteSize ∧
      base "ads.example.com" = base "*.ads.example.com" ∧
      (∀ record ∈ adverts, keep record = false → Idle adverts key record) ∧
      (∀ record ∈ advertsMoved, keep record = false → Idle advertsMoved key record) ∧
      advertsMoved.filter keep = adverts.filter keep ∧
      resolves advertsMoved key ["ad"] = resolves adverts key ["ad"] ∧
      adverts.Perm adverts.reverse ∧ Agreeing adverts key ["ad"] ∧
      resolves adverts.reverse key ["ad"] = resolves adverts key ["ad"] ∧
      resolves adverts key ["ad"] = true := by
  intro key keep
  obtain ⟨-, bases, deciding⟩ := specificity_decides key
  obtain ⟨-, idle, order⟩ := deciding adverts ["ad"]
  have literal : originCovers "ads.example.com" key = true := by decide +kernel
  have wildcard : originCovers "*.ads.example.com" key = true := by decide +kernel
  have size : (base "ads.example.com").utf8ByteSize = (base "*.ads.example.com").utf8ByteSize := by
    decide +kernel
  have idleBefore : ∀ record ∈ adverts, keep record = false → Idle adverts key record := by
    decide +kernel
  have idleAfter : ∀ record ∈ advertsMoved, keep record = false → Idle advertsMoved key record := by
    decide +kernel
  have same : advertsMoved.filter keep = adverts.filter keep := by decide +kernel
  have reversed : adverts.Perm adverts.reverse := (List.reverse_perm _).symm
  have agreeing : Agreeing adverts key ["ad"] := by decide +kernel
  exact ⟨literal, wildcard, size, bases _ _ literal wildcard size, idleBefore, idleAfter, same,
    idle _ keep idleBefore idleAfter same, reversed, agreeing, order _ reversed agreeing,
    by decide +kernel⟩

end Confirm

end CategoryFilter
