/-
**What an exclusion list covers, and where its entries come from.**

* `Exclusions.Sound`: the wildcards that a list keeps apart are those among its entries, so a search of
  either finds the same (`Sound.contains_wildcards`).
* `Exclusions.Holds`: a sound list that holds what was inserted, each entry once. One insertion keeps that
  (`Holds.insert`), so several do (`Holds.insertAll`).
* `Exclusions.covers_ofList`: a list covers a name if one of its entries does.
* `Exclusions.insertions`: what insertions answer, and what a list says after them.
* `Category.base_variant`: the base of a bloom-filter variant is the id without `_bf`.
* `Registry.covers_variant`: what an entry of a category covers is excluded from its bloom-filter
  variant.
-/

import CategoryFilter.Category.Registry
import CategoryFilter.Proofs.Coverage
import Mathlib.Data.Finset.Card

namespace CategoryFilter

namespace Exclusions

/-- The wildcards of a list are its entries that have the form of one. -/
def Sound (x : Exclusions) : Prop := ∀ entry, entry ∈ x.wildcards ↔
  entry ∈ x.entries ∧ Domain.isWildcard entry = true

variable {x : Exclusions} {entry other : String}

theorem mem_withEntry : other ∈ x.withEntry entry ↔ other ∈ x.entries ∨ other = entry := by
  unfold withEntry
  split
  · next known =>
    have listed : entry ∈ x.entries := List.contains_iff_mem.mp known
    exact ⟨Or.inl, fun either => either.elim id fun same => same ▸ listed⟩
  · rw [List.mem_append, List.mem_singleton]

theorem nodup_withEntry (distinct : x.entries.Nodup) (entry : String) : (x.withEntry entry).Nodup := by
  unfold withEntry
  split
  · exact distinct
  · next fresh =>
    have absent : entry ∉ x.entries := by simpa using fresh
    exact distinct.append (List.nodup_singleton entry) (by simpa using absent)

theorem mem_wildcards_insert : other ∈ (x.insert entry).1.wildcards ↔
    other ∈ x.wildcards ∨ other = entry ∧ Domain.isWildcard entry = true := by
  unfold insert
  cases form : Domain.isWildcard entry with
  | false => simp
  | true =>
    cases known : x.wildcards.contains entry with
    | false => simp
    | true =>
      have listed : entry ∈ x.wildcards := List.contains_iff_mem.mp known
      rw [if_pos rfl, if_pos rfl, and_iff_left rfl]
      exact ⟨Or.inl, fun either => either.elim id fun same => same ▸ listed⟩

namespace Sound

/-- **The two searches agree**: a wildcard is found among the wildcards exactly if it is an entry. -/
theorem contains_wildcards (sound : x.Sound) (wild : Domain.isWildcard entry = true) :
    x.wildcards.contains entry = x.entries.contains entry := by
  rw [Bool.eq_iff_iff, List.contains_iff_mem, List.contains_iff_mem, sound entry, and_iff_left wild]

theorem entries_insert (sound : x.Sound) (entry : String) :
    (x.insert entry).1.entries = x.withEntry entry := by
  unfold Exclusions.insert
  split
  · next wild =>
    rw [sound.contains_wildcards wild]
    split
    · next known => rw [withEntry, if_pos known]
    · rfl
  · rfl

theorem insert_snd (sound : x.Sound) (entry : String) :
    (x.insert entry).2 = !x.entries.contains entry := by
  unfold Exclusions.insert
  split
  · next wild =>
    rw [sound.contains_wildcards wild]
    cases x.entries.contains entry <;> rfl
  · rfl

theorem insert (sound : x.Sound) (entry : String) : (x.insert entry).1.Sound := by
  intro other
  rw [mem_wildcards_insert, sound.entries_insert, mem_withEntry, sound other, or_and_right]
  refine or_congr_right (and_congr_right fun same => ?_)
  rw [same]

end Sound

theorem Sound.covers_iff (sound : x.Sound) (name : String) :
    x.covers name = true ↔ ∃ entry ∈ x.entries, Domain.covered name entry = true := by
  unfold covers
  rw [Bool.or_eq_true, List.contains_iff_mem, List.any_eq_true]
  constructor
  · rintro (listed | ⟨entry, wild, covered⟩)
    · exact ⟨name, listed, Domain.covered_iff.mpr (Or.inl rfl)⟩
    · exact ⟨entry, ((sound entry).mp wild).1, covered⟩
  · rintro ⟨entry, listed, covered⟩
    by_cases same : name = entry
    · exact Or.inl (same ▸ listed)
    · have form : Domain.isWildcard entry = true := by
        simp only [Domain.covered, Bool.or_eq_true, beq_iff_eq, Bool.and_eq_true] at covered
        exact (covered.resolve_left same).1
      exact Or.inr ⟨entry, (sound entry).mpr ⟨listed, form⟩, covered⟩

/-! ### Several insertions -/

/-- A list that holds what was inserted, each entry once. -/
structure Holds (x : Exclusions) (inserted : List String) : Prop where
  sound : x.Sound
  distinct : x.entries.Nodup
  entries : ∀ entry, entry ∈ x.entries ↔ entry ∈ inserted

theorem holds_empty : empty.Holds [] :=
  ⟨fun entry => by simp [empty], List.nodup_nil, fun _ => Iff.rfl⟩

/-- Insert several entries one after another, with what each insertion says. -/
def insertAll (x : Exclusions) : List String → Exclusions × List Bool
  | [] => (x, [])
  | entry :: rest =>
    let (once, new) := x.insert entry
    let (all, more) := once.insertAll rest
    (all, new :: more)

theorem insertAll_fst (x : Exclusions) (entries : List String) :
    (x.insertAll entries).1 = entries.foldl (fun x entry => (x.insert entry).1) x := by
  induction entries generalizing x with
  | nil => rfl
  | cons entry rest ih => exact ih (x.insert entry).1

namespace Holds

variable {inserted others : List String}

/-- An insertion is refused if its entry was inserted before. -/
theorem insert_snd (held : x.Holds inserted) (entry : String) :
    (x.insert entry).2 = !inserted.contains entry := by
  have known : x.entries.contains entry = inserted.contains entry := by
    rw [Bool.eq_iff_iff, List.contains_iff_mem, List.contains_iff_mem, held.entries]
  rw [held.sound.insert_snd, known]

/-- **One insertion keeps a list of what was inserted.** -/
theorem insert (held : x.Holds inserted) (entry : String) :
    (x.insert entry).1.Holds (inserted ++ [entry]) := by
  refine ⟨held.sound.insert entry, ?_, fun other => ?_⟩
  · rw [held.sound.entries_insert]
    exact nodup_withEntry held.distinct entry
  · rw [held.sound.entries_insert, mem_withEntry, held.entries, List.mem_append, List.mem_singleton]

/-- **So do several insertions**, and each says whether its entry was not inserted before. -/
theorem insertAll (held : x.Holds inserted) (entries : List String) :
    (x.insertAll entries).1.Holds (inserted ++ entries) ∧
      (x.insertAll entries).2 =
        entries.mapIdx fun i entry => !(inserted ++ entries.take i).contains entry := by
  induction entries generalizing x inserted with
  | nil => exact ⟨by rwa [List.append_nil], rfl⟩
  | cons entry rest ih =>
    obtain ⟨later, answers⟩ := ih (held.insert entry)
    refine ⟨by rwa [List.append_assoc] at later, ?_⟩
    show (x.insert entry).2 :: ((x.insert entry).1.insertAll rest).2 = _
    rw [answers, held.insert_snd, List.mapIdx_cons]
    simp only [List.take_zero, List.append_nil, List.take_succ_cons, List.append_assoc,
      List.singleton_append]

theorem covers_iff (held : x.Holds inserted) (name : String) :
    x.covers name = true ↔ ∃ entry ∈ inserted, Domain.covered name entry = true := by
  refine (held.sound.covers_iff name).trans (exists_congr fun entry => and_congr_left fun _ => ?_)
  exact held.entries entry

theorem size_eq (held : x.Holds inserted) : x.size = inserted.toFinset.card := by
  have same : inserted.toFinset = x.entries.toFinset := by
    ext entry
    rw [List.mem_toFinset, List.mem_toFinset, held.entries]
  rw [same, List.toFinset_card_of_nodup held.distinct]
  rfl

theorem of_same (held : x.Holds inserted) (same : ∀ entry, entry ∈ others ↔ entry ∈ inserted) :
    x.Holds others :=
  ⟨held.sound, held.distinct, fun entry => (held.entries entry).trans (same entry).symm⟩

end Holds

theorem ofList_eq (entries : List String) : ofList entries = (empty.insertAll entries).1 :=
  (insertAll_fst empty entries).symm

theorem holds_ofList (entries : List String) : (ofList entries).Holds entries := by
  rw [ofList_eq]
  exact (holds_empty.insertAll entries).1

/-- **A list covers what one of its entries covers.** -/
theorem covers_ofList (entries : List String) (name : String) :
    (ofList entries).covers name = true ↔
      ∃ entry ∈ entries, Domain.covered name entry = true :=
  (holds_ofList entries).covers_iff name

/-- **A list is exactly its entries.** After a list was made of some entries and others were inserted into
it, in any order and with any repetitions, it covers what one of all these covers, it counts each of them
once, each insertion has said whether its entry was new, and the wildcards kept apart are those among the
entries. Insertions of the same entries in another order or number give the same answers, and whatever is
under a covered name is covered. -/
theorem insertions (first later : List String) :
    ∃ list answers, (ofList first).insertAll later = (list, answers) ∧
      (∀ name, list.covers name = true ↔
        ∃ entry ∈ first ++ later, Domain.covered name entry = true) ∧
      answers = later.mapIdx (fun i entry => !(first ++ later.take i).contains entry) ∧
      list.size = (first ++ later).toFinset.card ∧
      (∀ entry, entry ∈ list.wildcards ↔ entry ∈ first ++ later ∧ Domain.isWildcard entry = true) ∧
      (∀ other more, (∀ entry, entry ∈ other ++ more ↔ entry ∈ first ++ later) →
        let again := ((ofList other).insertAll more).1
        again.size = list.size ∧ ∀ name, again.covers name = list.covers name) ∧
      ∀ name pattern, list.covers pattern = true → Domain.covered name pattern = true →
        list.covers name = true := by
  obtain ⟨held, answers⟩ := (holds_ofList first).insertAll later
  refine ⟨_, _, rfl, held.covers_iff, answers, held.size_eq, fun entry => ?_, fun other more same => ?_,
    fun name pattern listed covered => ?_⟩
  · rw [held.sound entry, held.entries entry]
  · have again := ((holds_ofList other).insertAll more).1
    refine ⟨?_, fun name => ?_⟩
    · rw [again.size_eq, (held.of_same same).size_eq]
    · rw [Bool.eq_iff_iff, again.covers_iff, (held.of_same same).covers_iff]
  · obtain ⟨entry, inserted, wide⟩ := (held.covers_iff pattern).mp listed
    exact (held.covers_iff name).mpr ⟨entry, inserted, Domain.covered_trans covered wide⟩

/-- A wildcard that is inserted twice: the second insertion is refused, and what the wildcard covers was
covered all the time. -/
theorem insertions_repeated :
    let list := (ofList ["*.a.com"]).insertAll ["b.com", "*.a.com"]
    list.2 = [true, false] ∧ list.1.size = 2 ∧
      (∀ entry, entry ∈ ["b.com"] ++ ["*.a.com"] ↔ entry ∈ ["*.a.com"] ++ ["b.com", "*.a.com"]) ∧
      ((ofList ["b.com"]).insertAll ["*.a.com"]).1.size = list.1.size ∧
      list.1.covers "*.x.a.com" = true ∧ Domain.covered "y.x.a.com" "*.x.a.com" = true ∧
      list.1.covers "y.x.a.com" = true := by
  intro list
  obtain ⟨_, _, made, -, -, -, -, reordered, downward⟩ := insertions ["*.a.com"] ["b.com", "*.a.com"]
  cases made
  have same : ∀ entry, entry ∈ ["b.com"] ++ ["*.a.com"] ↔
      entry ∈ ["*.a.com"] ++ ["b.com", "*.a.com"] := fun entry => by simp [or_comm]
  have listed : list.1.covers "*.x.a.com" = true := by decide +kernel
  have under : Domain.covered "y.x.a.com" "*.x.a.com" = true := by decide +kernel
  exact ⟨by decide +kernel, by decide +kernel, same, (reordered _ _ same).1, listed, under,
    downward _ _ listed under⟩

end Exclusions

theorem Category.base_variant {category : String} (named : category ≠ "") :
    base (category ++ "_bf") = category := by
  have suffix : "_bf".toList = ['_', 'b', 'f'] := by simp
  have backwards : (category ++ "_bf").toList.reverse =
      'f' :: 'b' :: '_' :: category.toList.reverse := by
    rw [String.toList_append, List.reverse_append, suffix]
    rfl
  have found : "_bf".toList.isSuffixOf? (category ++ "_bf").toList = some category.toList := by
    show Option.map List.reverse (List.isPrefixOf? "_bf".toList.reverse _) = _
    rw [backwards, suffix]
    show some category.toList.reverse.reverse = _
    rw [List.reverse_reverse]
  unfold base
  rw [found]
  cases chars : category.toList with
  | nil => exact absurd (String.toList_eq_nil_iff.mp chars) named
  | cons c rest =>
    show String.ofList (c :: rest) = category
    rw [← chars, String.ofList_toList]

namespace Registry

variable {r : Registry} {d : Definition} {category entry name : String}

/-- **What an entry of a category covers is excluded from its bloom-filter variant.** -/
theorem covers_variant (named : category ≠ "") (defined : r.definition? category = some d)
    (listed : entry ∈ d.excludedDomains) (covered : Domain.covered name entry = true) :
    (r.exclusions (category ++ "_bf")).covers name = true := by
  refine (Exclusions.covers_ofList _ name).mpr ⟨entry, Text.mem_sortNames.mpr ?_, covered⟩
  refine List.mem_append_right _ ?_
  show entry ∈ ((r.definition? (Category.base (category ++ "_bf"))).map (·.excludedDomains)).getD []
  rw [Category.base_variant named, defined]
  exact listed

end Registry

end CategoryFilter
