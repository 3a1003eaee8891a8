/-
**Which names a pattern covers.**

A name comes `UnderWildcard` a pattern if the pattern is `*.` before a name with a dot, and the name ends
with a dot and that one. Coverage is this or equality:

* `wildcards_eq_labels`: the wildcards that cover a name are those over its ends of two or more labels, the
  whole name apart.
* `pairwise_wildcards`: they are listed longest first, so none of them twice.
* `mem_wildcards_trans`, `eq_of_mem_wildcards`: a wildcard that covers a wildcard covers what that one
  covers, and only itself covers it in turn.
* `coverage`: all of it, with coverage as a partial order.
-/

import CategoryFilter.Domain.Pattern
import CategoryFilter.Text.Pieces
import Mathlib.Data.List.Infix
import Mathlib.Order.Defs.Unbundled

namespace CategoryFilter.Domain

variable {domain pattern wider : String}

/-- A pattern is a wildcard over a name with a dot, and a domain ends with a dot and that name. -/
def UnderWildcard (domain pattern : String) : Prop :=
  ∃ name, '.' ∈ name.toList ∧ pattern = "*." ++ name ∧ ∃ front, domain = front ++ "." ++ name

theorem wildcardOver_toList (name : String) : wildcardOver name.toList = "*." ++ name := by
  rw [← String.toList_inj]
  simp [wildcardOver]

/-- A domain ends with a dot and a name if its characters do. -/
theorem suffix_iff_exists {name : String} :
    ('.' :: name.toList) <:+ domain.toList ↔ ∃ front, domain = front ++ "." ++ name := by
  constructor
  · rintro ⟨front, same⟩
    refine ⟨String.ofList front, ?_⟩
    rw [← String.toList_inj]
    simp [← same]
  · rintro ⟨front, rfl⟩
    exact ⟨front.toList, by simp⟩

theorem mem_wildcards_iff : pattern ∈ wildcards domain ↔ UnderWildcard domain pattern := by
  rw [mem_wildcards]
  constructor
  · rintro ⟨rest, ends, dotted, rfl⟩
    have chars : (String.ofList rest).toList = rest := String.toList_ofList
    refine ⟨String.ofList rest, by rwa [chars], ?_, suffix_iff_exists.mp (by rwa [chars])⟩
    rw [← wildcardOver_toList, chars]
  · rintro ⟨name, dotted, rfl, ends⟩
    exact ⟨name.toList, suffix_iff_exists.mpr ends, dotted, (wildcardOver_toList name).symm⟩

/-! ### The list of wildcards -/

/-- The labels of a name: what is between its dots. -/
def labels (domain : String) : List (List Char) :=
  Text.pieces (· == '.') domain.toList

/-- Some labels with dots between them. -/
def joined (labels : List (List Char)) : List Char :=
  ['.'].intercalate labels

@[simp] theorem joined_single (label : List Char) : joined [label] = label := by
  simp [joined, List.intercalate]

@[simp] theorem joined_cons_cons (first second : List Char) (rest : List (List Char)) :
    joined (first :: second :: rest) = first ++ '.' :: joined (second :: rest) := by
  simp [joined, List.intercalate]

/-- A longer first label makes the joined labels longer. -/
theorem joined_grow (c : Char) (first : List Char) (rest : List (List Char)) :
    joined ((c :: first) :: rest) = c :: joined (first :: rest) := by
  cases rest <;> simp

/-- The labels of a name joined again are the name. -/
theorem joined_pieces (cs : List Char) : joined (Text.pieces (· == '.') cs) = cs := by
  induction cs with
  | nil => rfl
  | cons c rest ih =>
    cases split : Text.pieces (· == '.') rest with
    | nil => simpa [split] using Text.length_pieces (· == '.') rest
    | cons piece more =>
      rw [split] at ih
      by_cases dot : c = '.'
      · simp [Text.pieces, dot, split, ih]
      · simp [Text.pieces, dot, split, joined_grow, ih]

/-- The ends of a name after its dots are the ends of its list of labels, the whole list and the empty one
apart. -/
theorem map_joined_tails (cs : List Char) :
    (Text.pieces (· == '.') cs).tail.tails.map joined = afterDots cs ++ [[]] := by
  induction cs with
  | nil => rfl
  | cons c rest ih =>
    cases split : Text.pieces (· == '.') rest with
    | nil => simpa [split] using Text.length_pieces (· == '.') rest
    | cons piece more =>
      have whole := joined_pieces rest
      rw [split] at ih whole
      by_cases dot : c = '.'
      · simpa [Text.pieces, afterDots, dot, split, whole] using ih
      · simpa [Text.pieces, afterDots, dot, split] using ih

/-- Joined labels have a dot if there are two of them. -/
theorem contains_dot_joined {labels : List (List Char)} (plain : ∀ label ∈ labels, '.' ∉ label) :
    (joined labels).contains '.' = decide (2 ≤ labels.length) := by
  match labels with
  | [] => rfl
  | [label] => simpa using plain label List.mem_cons_self
  | first :: second :: rest => simp

/-- **The wildcards of a name are those over its ends of two or more labels**, the whole name apart. -/
theorem wildcards_eq_labels (domain : String) :
    wildcards domain =
      ((labels domain).tail.tails.filter (2 ≤ ·.length)).map (wildcardOver ∘ joined) := by
  have dotted : ∀ ends ∈ (labels domain).tail.tails,
      ((joined ends).contains '.') = decide (2 ≤ ends.length) := by
    intro ends listed
    refine contains_dot_joined fun label inside held => ?_
    have piece : label ∈ labels domain :=
      List.mem_of_mem_tail (((List.mem_tails _ _).mp listed).subset inside)
    simpa using Text.not_mem_pieces piece held
  have ends : wildcards domain =
      ((((labels domain).tail.tails).map joined).filter (·.contains '.')).map wildcardOver := by
    rw [labels, map_joined_tails, List.filter_append]
    simp [wildcards]
  rw [ends, List.filter_map, List.map_map]
  exact congrArg (List.map _) (List.filter_congr dotted)

theorem pairwise_afterDots (cs : List Char) :
    (afterDots cs).Pairwise fun before after => after.length < before.length := by
  induction cs with
  | nil => exact List.Pairwise.nil
  | cons c rest ih =>
    unfold afterDots
    split
    · refine List.pairwise_cons.mpr ⟨fun later listed => ?_, ih⟩
      exact (mem_afterDots.mp listed).length_le
    · exact ih

/-- **The wildcards of a name are listed longest first.** -/
theorem pairwise_wildcards (domain : String) :
    (wildcards domain).Pairwise fun before after => after.length < before.length := by
  refine List.pairwise_map.mpr (((pairwise_afterDots domain.toList).filter _).imp ?_)
  intro before after shorter
  simpa [wildcardOver] using shorter

theorem nodup_wildcards (domain : String) : (wildcards domain).Nodup := by
  refine (pairwise_wildcards domain).imp ?_
  rintro before after shorter rfl
  exact Nat.lt_irrefl _ shorter

/-! ### The order -/

/-- What a wildcard ends with, after a dot, the name under it ends with, or it is that name. -/
theorem suffix_of_suffix_wildcard {name other : List Char}
    (ends : ('.' :: other) <:+ '*' :: '.' :: name) : ('.' :: other) <:+ '.' :: name := by
  rcases List.suffix_cons_iff.mp ends with same | ends
  · cases same
  · exact ends

/-- **A wildcard that covers a wildcard covers what that one covers.** -/
theorem mem_wildcards_trans (first : pattern ∈ wildcards domain) (second : wider ∈ wildcards pattern) :
    wider ∈ wildcards domain := by
  obtain ⟨name, ends, -, rfl⟩ := mem_wildcards.mp first
  obtain ⟨other, inside, dotted, rfl⟩ := mem_wildcards.mp second
  rw [wildcardOver, String.toList_ofList] at inside
  exact mem_wildcards.mpr ⟨other, (suffix_of_suffix_wildcard inside).trans ends, dotted, rfl⟩

/-- **Two names that are wildcards of each other are one.** -/
theorem eq_of_mem_wildcards (first : pattern ∈ wildcards domain) (second : domain ∈ wildcards pattern) :
    domain = pattern := by
  obtain ⟨name, ends, -, rfl⟩ := mem_wildcards.mp first
  obtain ⟨other, inside, -, rfl⟩ := mem_wildcards.mp second
  rw [wildcardOver, String.toList_ofList] at ends inside
  have shorter := suffix_of_suffix_wildcard ends
  have longer := suffix_of_suffix_wildcard inside
  have same := shorter.eq_of_length (shorter.length_le.antisymm longer.length_le)
  rw [(List.cons.inj same).2]

theorem covered_iff_underWildcard :
    covered domain pattern = true ↔ domain = pattern ∨ UnderWildcard domain pattern := by
  rw [covered_iff, mem_wildcards_iff]

theorem covered_self (domain : String) : covered domain domain = true :=
  covered_iff.mpr (Or.inl rfl)

/-- **A pattern that covers a pattern covers what that one covers.** -/
theorem covered_trans (first : covered domain pattern = true) (second : covered pattern wider = true) :
    covered domain wider = true := by
  rw [covered_iff] at first second ⊢
  rcases first with rfl | first
  · exact second
  · rcases second with rfl | second
    · exact Or.inr first
    · exact Or.inr (mem_wildcards_trans first second)

theorem covered_antisymm (first : covered domain pattern = true)
    (second : covered pattern domain = true) : domain = pattern := by
  rw [covered_iff] at first second
  rcases first with same | first
  · exact same
  · rcases second with same | second
    · exact same.symm
    · exact eq_of_mem_wildcards first second

/-- **Coverage is by the ends of names, and a partial order.** A pattern covers itself and the names under
it; the wildcards that cover a name are listed longest first and once each, and they are those over its ends
of two or more labels; and as a relation on all names coverage is reflexive, antisymmetric and transitive. -/
theorem coverage :
    (∀ domain pattern,
      covered domain pattern = true ↔ domain = pattern ∨ UnderWildcard domain pattern) ∧
    (∀ domain,
      (∀ pattern, pattern ∈ wildcards domain ↔ UnderWildcard domain pattern) ∧
      (wildcards domain).Pairwise (fun before after => after.length < before.length) ∧
      (wildcards domain).Nodup ∧
      wildcards domain =
        ((labels domain).tail.tails.filter (2 ≤ ·.length)).map (wildcardOver ∘ joined)) ∧
    IsPartialOrder String fun domain pattern => covered domain pattern = true := by
  refine ⟨fun domain pattern => covered_iff_underWildcard, fun domain => ?_, ?_⟩
  · exact ⟨fun pattern => mem_wildcards_iff, pairwise_wildcards domain, nodup_wildcards domain,
      wildcards_eq_labels domain⟩
  · exact {
      refl := covered_self
      antisymm := fun _ _ => covered_antisymm
      trans := fun _ _ _ => covered_trans }

/-- A name under a wildcard that is under another one. -/
theorem coverage_chain :
    covered "a.b.x.com" "*.b.x.com" = true ∧ covered "*.b.x.com" "*.x.com" = true ∧
      covered "a.b.x.com" "*.x.com" = true ∧ wildcards "a.b.x.com" = ["*.b.x.com", "*.x.com"] := by
  have first : covered "a.b.x.com" "*.b.x.com" = true := by decide +kernel
  have second : covered "*.b.x.com" "*.x.com" = true := by decide +kernel
  exact ⟨first, second, coverage.2.2.trans _ _ _ first second, by decide +kernel⟩

end CategoryFilter.Domain
