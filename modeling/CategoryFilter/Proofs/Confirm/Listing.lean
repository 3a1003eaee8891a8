/-
**What a list file confirms.**

A text `HasLines`, each ended by a line feed or by a carriage return and a line feed, and the last one perhaps
by nothing. A line makes an entry unless it is empty or a comment, and a list confirms the keys that it holds
and those whose base is under one of its wildcards.

* `entryOf?_eq_some_iff`: the entry of a line, by what is left of the line without blanks at its ends.
* `filterMap_lines`: the entries of a text are those of its lines, however these end.
* `isListed_iff`, `isListed_iff_covered`: which keys a list confirms.
* `Revision`: lines in another order or number, spelled in another way, and comments. None of it changes the
  entries (`Revision.entry_iff`).
* `list_confirmation`: all of it.
-/

import CategoryFilter.Confirm.ListFile
import CategoryFilter.Proofs.Bytes
import CategoryFilter.Proofs.Coverage
import CategoryFilter.Proofs.Trimming
import Mathlib.Logic.Relation

namespace CategoryFilter.Confirm

open Domain (base covered isWildcard UnderWildcard)
open Text (Trims isBlank lowerAscii trim)

variable {line front back : List Char} {entry key : String} {entries : List String}

/-! ### The entry of a line -/

/-- A line makes an entry: what is left of it without the blanks at its ends, in lower case, unless that is
empty or begins with a number sign. -/
def MakesEntry (line : List Char) (entry : String) : Prop :=
  ∃ core, Trims line core ∧ core ≠ [] ∧ core.head? ≠ some '#' ∧
    entry = String.ofList (core.map Char.toLower)

theorem entryOf?_eq_some_iff : entryOf? line = some entry ↔ MakesEntry line entry := by
  unfold entryOf? MakesEntry
  simp only [Text.trims_iff, exists_eq_left']
  cases trim line with
  | nil => simp
  | cons c rest =>
    by_cases comment : c = '#'
    · simp [comment]
    · simp [comment, lowerAscii, eq_comm]

/-- Blanks around a line make no difference. -/
theorem entryOf?_pad (before : ∀ c ∈ front, isBlank c = true) (after : ∀ c ∈ back, isBlank c = true) :
    entryOf? (front ++ line ++ back) = entryOf? line := by
  unfold entryOf?
  rw [Text.trim_pad before after]

/-- **A line in lower case makes the same entry.** -/
theorem entryOf?_lowerAscii (line : List Char) : entryOf? (lowerAscii line) = entryOf? line := by
  unfold entryOf?
  rw [Text.trim_lowerAscii]
  cases trim line with
  | nil => rfl
  | cons c rest =>
    have comment : c.toLower = '#' ↔ c = '#' := by
      simpa using Text.toLower_keeps (q := (· == '#')) (by decide) c
    show (if c.toLower = '#' then none
      else some (String.ofList (lowerAscii (lowerAscii (c :: rest))))) = _
    rw [Text.lowerAscii_lowerAscii]
    simp only [comment]

/-! ### The lines of a text -/

/-- A text has some lines. A carriage return before a line feed belongs to the end of its line. -/
inductive HasLines : List Char → List (List Char) → Prop
  | none : HasLines [] []
  | last {line : List Char} (some : line ≠ []) (plain : '\n' ∉ line) : HasLines line [line]
  | lf {line rest : List Char} {lines : List (List Char)} (plain : '\n' ∉ line)
      (ends : line.getLast? ≠ some '\r') (more : HasLines rest lines) :
      HasLines (line ++ '\n' :: rest) (line :: lines)
  | crlf {line rest : List Char} {lines : List (List Char)} (plain : '\n' ∉ line)
      (more : HasLines rest lines) : HasLines (line ++ '\r' :: '\n' :: rest) (line :: lines)

theorem exists_hasLines (text : List Char) : ∃ lines, HasLines text lines := by
  by_cases broken : '\n' ∈ text
  · obtain ⟨first, rest, split, plain⟩ := List.eq_append_cons_of_mem broken
    have shorter : rest.length < text.length := by
      rw [split, List.length_append, List.length_cons]
      omega
    obtain ⟨lines, more⟩ := exists_hasLines rest
    rw [split]
    by_cases ends : first.getLast? = some '\r'
    · obtain ⟨line, rfl⟩ := List.getLast?_eq_some_iff.mp ends
      refine ⟨line :: lines, ?_⟩
      rw [List.append_assoc]
      exact .crlf (fun listed => plain (List.mem_append_left _ listed)) more
    · exact ⟨first :: lines, .lf plain ends more⟩
  · cases text with
    | nil => exact ⟨[], .none⟩
    | cons c rest => exact ⟨[c :: rest], .last (List.cons_ne_nil c rest) broken⟩
termination_by text.length

theorem lines_append (plain : '\n' ∉ line) (rest : List Char) :
    lines (line ++ '\n' :: rest) = line :: lines rest := by
  induction line with
  | nil => simp [lines]
  | cons c more ih =>
    obtain ⟨apart, plain⟩ := not_or.mp (mt List.mem_cons.mpr plain)
    rw [List.cons_append, lines, if_neg (Ne.symm apart), ih plain]

theorem lines_single (plain : '\n' ∉ line) (some : line ≠ []) : lines line = [line] := by
  induction line with
  | nil => exact absurd rfl some
  | cons c more ih =>
    obtain ⟨apart, plain⟩ := not_or.mp (mt List.mem_cons.mpr plain)
    unfold lines
    rw [if_neg (Ne.symm apart)]
    cases more with
    | nil => rfl
    | cons d more => rw [ih plain (List.cons_ne_nil d more)]

/-- **The entries of a text are those of its lines**, however these end. -/
theorem filterMap_lines {found : List (List Char)} (held : HasLines text found) :
    (lines text).filterMap entryOf? = found.filterMap entryOf? := by
  induction held with
  | none => rfl
  | last some plain => rw [lines_single plain some]
  | lf plain _ _ ih => rw [lines_append plain, List.filterMap_cons, List.filterMap_cons, ih]
  | @crlf line rest found plain _ ih =>
    have returned : '\n' ∉ line ++ ['\r'] := by simpa using plain
    have same : entryOf? ([] ++ line ++ ['\r']) = entryOf? line :=
      entryOf?_pad (fun _ none => nomatch none) (List.forall_mem_singleton.mpr (by decide))
    have split : line ++ '\r' :: '\n' :: rest = (line ++ ['\r']) ++ '\n' :: rest := by simp
    rw [split, lines_append returned, List.filterMap_cons, List.filterMap_cons, ← same, ih,
      List.nil_append]

/-! ### Keys on a list -/

/-- **A list confirms the keys that it holds and those under its wildcards.** -/
theorem isListed_iff : isListed entries key = true ↔
    ∃ entry ∈ entries, entry = key ∨ UnderWildcard (base key) entry := by
  simp only [isListed, Bool.or_eq_true, List.any_eq_true, List.contains_iff_mem,
    Domain.mem_wildcards_iff]
  constructor
  · rintro (listed | ⟨entry, under, listed⟩)
    · exact ⟨key, listed, Or.inl rfl⟩
    · exact ⟨entry, listed, Or.inr under⟩
  · rintro ⟨entry, listed, rfl | under⟩
    · exact Or.inl listed
    · exact Or.inr ⟨entry, under, listed⟩

/-- Over a base that is no wildcard, to be under a wildcard is to be covered by one. -/
theorem underWildcard_iff_covered (literal : isWildcard (base key) = false) :
    UnderWildcard (base key) entry ↔ isWildcard entry = true ∧ covered (base key) entry = true := by
  rw [Domain.covered_iff_underWildcard]
  constructor
  · intro under
    obtain ⟨rest, -, -, rfl⟩ := Domain.mem_wildcards.mp (Domain.mem_wildcards_iff.mpr under)
    exact ⟨Domain.isWildcard_wildcardOver rest, Or.inr under⟩
  · rintro ⟨wild, rfl | under⟩
    · rw [literal] at wild
      cases wild
    · exact under

/-! ### Other texts with the same entries -/

/-- The lines of a list put into another order, one of them repeated, spelled in other letters or between
other blanks, or a line without an entry added. -/
inductive Revision : List (List Char) → List (List Char) → Prop
  | reordered {first second : List (List Char)} (order : first.Perm second) : Revision first second
  | repeated {line : List Char} {lines : List (List Char)} (listed : line ∈ lines) :
      Revision lines (line :: lines)
  | recased {line other : List Char} (lines : List (List Char))
      (same : line.map Char.toLower = other.map Char.toLower) :
      Revision (line :: lines) (other :: lines)
  | padded {front back : List Char} (line : List Char) (lines : List (List Char))
      (before : ∀ c ∈ front, isBlank c = true) (after : ∀ c ∈ back, isBlank c = true) :
      Revision (line :: lines) ((front ++ line ++ back) :: lines)
  | remarked {line core : List Char} (lines : List (List Char)) (left : Trims line core)
      (idle : core = [] ∨ core.head? = some '#') : Revision lines (line :: lines)

/-- Some lines make an entry. -/
def Makes (lines : List (List Char)) (entry : String) : Prop :=
  ∃ line ∈ lines, MakesEntry line entry

theorem mem_filterMap_iff {lines : List (List Char)} :
    entry ∈ lines.filterMap entryOf? ↔ Makes lines entry := by
  simp only [List.mem_filterMap, entryOf?_eq_some_iff, Makes]

theorem makes_cons {lines : List (List Char)} :
    Makes (line :: lines) entry ↔ entryOf? line = some entry ∨ Makes lines entry := by
  simp only [Makes, List.exists_mem_cons_iff, entryOf?_eq_some_iff]

/-- **A revision leaves the entries as they are.** -/
theorem Revision.makes_iff {first second : List (List Char)} (revision : Revision first second) :
    Makes first entry ↔ Makes second entry := by
  cases revision with
  | reordered order => exact exists_congr fun line => and_congr_left' order.mem_iff
  | repeated listed =>
    rw [makes_cons, entryOf?_eq_some_iff]
    exact ⟨Or.inr, fun either => either.elim (fun makes => ⟨_, listed, makes⟩) id⟩
  | @recased line other lines same =>
    have spelled : entryOf? line = entryOf? other := by
      rw [← entryOf?_lowerAscii line, ← entryOf?_lowerAscii other]
      exact congrArg entryOf? same
    rw [makes_cons, makes_cons, spelled]
  | padded line lines before after => rw [makes_cons, makes_cons, entryOf?_pad before after]
  | @remarked line core lines left idle =>
    have none : entryOf? line ≠ some entry := by
      rw [Ne, entryOf?_eq_some_iff]
      rintro ⟨other, trimmed, some, marked, -⟩
      obtain rfl : core = other :=
        (Text.trims_iff.mp left).symm.trans (Text.trims_iff.mp trimmed)
      exact idle.elim some marked
    rw [makes_cons, or_iff_right none]

/-- **So do any revisions**, made or undone. -/
theorem makes_iff_of_revisions {first second : List (List Char)}
    (revisions : Relation.EqvGen Revision first second) : Makes first entry ↔ Makes second entry := by
  induction revisions with
  | rel _ _ revision => exact revision.makes_iff
  | refl _ => exact Iff.rfl
  | symm _ _ _ ih => exact ih.symm
  | trans _ _ _ _ _ one two => exact one.trans two

/-! ### Confirmation -/

/-- The list file of a category has a text of some lines. -/
def HoldsLines (listFile : String → Except FileError ByteArray) (category : String)
    (lines : List (List Char)) : Prop :=
  ∃ (name text : String), listFileName category = .ok name ∧ listFile name = .ok text.toUTF8 ∧
    HasLines text.toList lines

variable {listFile : String → Except FileError ByteArray} {category : String}
  {found : List (List Char)}

theorem byListFile_eq (held : HoldsLines listFile category found) (keys : List String) :
    byListFile listFile category keys =
      .ok (keys.filter (isListed (found.filterMap entryOf?))) := by
  obtain ⟨name, text, named, content, split⟩ := held
  have loaded : loadList listFile category = .ok (found.filterMap entryOf?) := by
    unfold loadList
    rw [named]
    dsimp only [bind, Except.bind]
    rw [content]
    dsimp only
    rw [Text.fromUTF8?_toUTF8, ← filterMap_lines split]
    rfl
  unfold byListFile
  rw [loaded]
  cases keys with
  | nil => rfl
  | cons key rest => rfl

theorem isListed_congr {other : List String} (same : ∀ entry, entry ∈ entries ↔ entry ∈ other) :
    isListed entries = isListed other := by
  funext key
  rw [Bool.eq_iff_iff, isListed_iff, isListed_iff]
  exact exists_congr fun entry => and_congr_left' (same entry)

/-- **A list file confirms the keys that its entries cover.** Every text has lines, and the entries are made
by these. A key is confirmed if it is an entry, or its base is under an entry that is a wildcard; unless the
base is a wildcard itself, this is to be covered by one. Revisions of the lines and other ends of theirs
change nothing, and further lines only confirm more. -/
theorem list_confirmation :
    (∀ text, ∃ lines, HasLines text lines) ∧
    ∀ (listFile : String → Except FileError ByteArray) (category : String)
      (lines : List (List Char)) (keys : List String), HoldsLines listFile category lines →
      ∃ confirmed, byListFile listFile category keys = .ok confirmed ∧
        (∀ key, key ∈ confirmed ↔ key ∈ keys ∧ ∃ entry, Makes lines entry ∧
          (entry = key ∨ UnderWildcard (base key) entry)) ∧
        (∀ key, isWildcard (base key) = false →
          (key ∈ confirmed ↔ key ∈ keys ∧ ∃ entry, Makes lines entry ∧
            (entry = key ∨ isWildcard entry = true ∧ covered (base key) entry = true))) ∧
        ∀ otherFile revised, HoldsLines otherFile category revised →
          ∃ again, byListFile otherFile category keys = .ok again ∧
            (Relation.EqvGen Revision lines revised → again = confirmed) ∧
            (lines ⊆ revised → confirmed ⊆ again) := by
  refine ⟨exists_hasLines, fun listFile category found keys held =>
    ⟨_, byListFile_eq held keys, fun key => ?_, fun key literal => ?_,
      fun otherFile revised holds => ⟨_, byListFile_eq holds keys, fun revisions => ?_,
        fun within key => ?_⟩⟩⟩
  · simp only [List.mem_filter, isListed_iff, mem_filterMap_iff]
  · simp only [List.mem_filter, isListed_iff, mem_filterMap_iff, underWildcard_iff_covered literal]
  · rw [isListed_congr fun entry => ?_]
    rw [mem_filterMap_iff, mem_filterMap_iff, makes_iff_of_revisions revisions]
  · simp only [List.mem_filter, isListed_iff, mem_filterMap_iff]
    rintro ⟨asked, entry, ⟨line, listed, makes⟩, covers⟩
    exact ⟨asked, entry, ⟨line, within listed, makes⟩, covers⟩

/-- A directory with one file, the list of a category. -/
def singleList (category text : String) (name : String) : Except FileError ByteArray :=
  if name = category ++ ".lst" then .ok text.toUTF8 else .error .notFound

/-- A list with a wildcard. -/
def wildcardList : List (List Char) :=
  [" *.Evil.org ".toList, "a.com".toList]

/-- The same list: the wildcard in other letters and without the blanks, below a comment. -/
def wildcardListRevised : List (List Char) :=
  ["# new".toList, "*.evil.org".toList, "a.com".toList]

theorem holdsLines_wildcardList :
    HoldsLines (singleList "av" " *.Evil.org \r\na.com") "av" wildcardList := by
  refine ⟨"av.lst", _, rfl, if_pos (by decide +kernel), ?_⟩
  have split : " *.Evil.org \r\na.com".toList =
      " *.Evil.org ".toList ++ '\r' :: '\n' :: "a.com".toList := by decide +kernel
  rw [split]
  exact .crlf (by decide +kernel) (.last (by decide +kernel) (by decide +kernel))

theorem holdsLines_wildcardListRevised :
    HoldsLines (singleList "av" "# new\n*.evil.org\na.com\n") "av" wildcardListRevised := by
  refine ⟨"av.lst", _, rfl, if_pos (by decide +kernel), ?_⟩
  have split : "# new\n*.evil.org\na.com\n".toList =
      "# new".toList ++ '\n' :: ("*.evil.org".toList ++ '\n' :: ("a.com".toList ++ ['\n'])) := by
    decide +kernel
  rw [split]
  exact .lf (by decide +kernel) (by decide +kernel) (.lf (by decide +kernel) (by decide +kernel)
    (.lf (by decide +kernel) (by decide +kernel) .none))

theorem revisions_wildcardList : Relation.EqvGen Revision wildcardList wildcardListRevised := by
  have blank : ∀ c ∈ [' '], isBlank c = true := List.forall_mem_singleton.mpr (by decide)
  have padded : Revision ["*.Evil.org".toList, "a.com".toList] wildcardList := by
    have split : " *.Evil.org ".toList = [' '] ++ "*.Evil.org".toList ++ [' '] := by decide +kernel
    rw [wildcardList, split]
    exact .padded _ _ blank blank
  have recased : Revision ["*.Evil.org".toList, "a.com".toList] ["*.evil.org".toList, "a.com".toList] :=
    .recased _ (by decide +kernel)
  have remarked : Revision ["*.evil.org".toList, "a.com".toList] wildcardListRevised :=
    .remarked _ (Text.trims_trim "# new".toList) (by decide +kernel)
  exact ((Relation.EqvGen.rel _ _ padded).symm.trans _ _ _ (.rel _ _ recased)).trans _ _ _
    (.rel _ _ remarked)

/-- Both versions confirm a name and a pattern under the wildcard, and not the name of the wildcard. -/
theorem list_confirmation_wildcard :
    let keys := ["cdn.evil.org", "evil.org", "*.x.evil.org"]
    HoldsLines (singleList "av" " *.Evil.org \r\na.com") "av" wildcardList ∧
      HoldsLines (singleList "av" "# new\n*.evil.org\na.com\n") "av" wildcardListRevised ∧
      Relation.EqvGen Revision wildcardList wildcardListRevised ∧
      isWildcard (base "*.x.evil.org") = false ∧
      ∃ confirmed,
        byListFile (singleList "av" " *.Evil.org \r\na.com") "av" keys = .ok confirmed ∧
        byListFile (singleList "av" "# new\n*.evil.org\na.com\n") "av" keys = .ok confirmed ∧
        ("*.x.evil.org" ∈ confirmed ↔ "*.x.evil.org" ∈ keys ∧ ∃ entry, Makes wildcardList entry ∧
          (entry = "*.x.evil.org" ∨
            isWildcard entry = true ∧ covered (base "*.x.evil.org") entry = true)) ∧
        confirmed = ["cdn.evil.org", "*.x.evil.org"] := by
  intro keys
  have literal : isWildcard (base "*.x.evil.org") = false := by decide +kernel
  obtain ⟨confirmed, answered, -, scan, further⟩ :=
    list_confirmation.2 _ "av" wildcardList keys holdsLines_wildcardList
  obtain ⟨again, answeredAgain, same, -⟩ := further _ _ holdsLines_wildcardListRevised
  obtain rfl := same revisions_wildcardList
  refine ⟨holdsLines_wildcardList, holdsLines_wildcardListRevised, revisions_wildcardList, literal,
    again, answered, answeredAgain, scan _ literal, ?_⟩
  rw [byListFile_eq holdsLines_wildcardList] at answered
  have listed : keys.filter (isListed (wildcardList.filterMap entryOf?)) =
      ["cdn.evil.org", "*.x.evil.org"] := by decide +kernel
  exact (Except.ok.inj answered).symm.trans listed

end CategoryFilter.Confirm
