/-
**Names in normal form.**

A name in normal form is not empty, has only the characters of `nameChars`, among them no upper case, and
does not end with a dot. There is nothing to cut from such a name:

* `Normal.normalize`: a name in normal form is its own normal form.
* `normal_of_normalize`: what a raw name becomes is in normal form.
* `normalize_normalize`: so normalizing twice is normalizing once.
-/

import CategoryFilter.Domain.Normal
import CategoryFilter.Proofs.Trimming

namespace CategoryFilter

namespace Domain

variable {raw t : String} {c : Char}

/-- The characters of a name in normal form. -/
def nameChars : List Char :=
  "abcdefghijklmnopqrstuvwxyz0123456789._*-".toList

/-- A name in normal form. -/
structure Normal (t : String) : Prop where
  nonempty : t ≠ ""
  chars : ∀ c ∈ t.toList, c ∈ nameChars
  undotted : t.toList.getLast? ≠ some '.'

/-! ### Characters -/

theorem isNameChar_of_mem (listed : c ∈ nameChars) :
    isNameChar c = true ∧ Text.isBlank c = false ∧ c.toLower = c := by
  have all : (nameChars.all fun c => isNameChar c && !Text.isBlank c && c.toLower == c) = true := by
    decide
  simpa [and_assoc] using List.all_eq_true.mp all c listed

theorem toNat_lt_of_isNameChar (named : isNameChar c = true) : c.toNat < 128 := by
  simp only [isNameChar, Bool.or_eq_true, beq_iff_eq] at named
  rcases named with (((alphanumeric | rfl) | rfl) | rfl) | rfl
  · rcases Bool.or_eq_true_iff.mp alphanumeric with letter | digit
    · rcases Bool.or_eq_true_iff.mp letter with upper | lower
      · have le : c.val ≤ 'Z'.val := (of_decide_eq_true upper).2
        exact Nat.lt_of_le_of_lt le (by decide)
      · have le : c.val ≤ 'z'.val := of_decide_eq_true (Bool.and_eq_true_iff.mp lower).2
        exact Nat.lt_of_le_of_lt le (by decide)
    · have le : c.val ≤ '9'.val := of_decide_eq_true (Bool.and_eq_true_iff.mp digit).2
      exact Nat.lt_of_le_of_lt le (by decide)
  · decide
  · decide
  · decide
  · decide

/-- A character of a raw name goes to one in normal form, and only a dot to a dot. -/
theorem toLower_of_isNameChar (named : isNameChar c = true) :
    c.toLower ∈ nameChars ∧ (c.toLower = '.' → c = '.') := by
  have all : ∀ n < 128, isNameChar (Char.ofNat n) = true → (Char.ofNat n).toLower ∈ nameChars ∧
      ((Char.ofNat n).toLower = '.' → Char.ofNat n = '.') := by decide
  have own := all c.toNat (toNat_lt_of_isNameChar named)
  rw [Char.ofNat_toNat] at own
  exact own named

/-! ### The normal form -/

/-- **A name in normal form stays as it is.** -/
theorem Normal.normalize (normal : Normal t) : Domain.normalize t = some t := by
  have named : ∀ c ∈ t.toList, isNameChar c = true ∧ Text.isBlank c = false ∧ c.toLower = c :=
    fun c listed => isNameChar_of_mem (normal.chars c listed)
  have whole : Text.dropEnd (· == '.') (Text.trim t.toList) = t.toList := by
    rw [Text.trim_of_no_blank fun c listed => (named c listed).2.1]
    refine Text.dropEnd_of_getLast fun c last => beq_eq_false_iff_ne.mpr ?_
    rintro rfl
    exact normal.undotted last
  have some : t.toList.isEmpty = false := by
    rw [List.isEmpty_eq_false_iff]
    exact fun empty => normal.nonempty (String.toList_eq_nil_iff.mp empty)
  have lower : Text.lowerAscii t.toList = t.toList :=
    (List.map_congr_left fun c listed => (named c listed).2.2).trans (List.map_id _)
  unfold Domain.normalize
  dsimp only
  rw [whole, some, List.all_eq_true.mpr fun c listed => (named c listed).1, lower, String.ofList_toList]
  rfl

/-- **What a raw name becomes is in normal form.** -/
theorem normal_of_normalize (normalized : Domain.normalize raw = some t) : Normal t := by
  unfold Domain.normalize at normalized
  dsimp only at normalized
  split at normalized
  · next named =>
    obtain ⟨some, named⟩ := Bool.and_eq_true_iff.mp named
    rw [← Option.some.inj normalized]
    refine ⟨fun empty => ?_, fun c listed => ?_, fun last => ?_⟩
    · have none := congrArg String.toList empty
      rw [String.toList_ofList] at none
      rw [List.map_eq_nil_iff.mp none] at some
      cases some
    · rw [String.toList_ofList] at listed
      obtain ⟨d, there, rfl⟩ := List.mem_map.mp listed
      exact (toLower_of_isNameChar (List.all_eq_true.mp named d there)).1
    · rw [String.toList_ofList, Text.lowerAscii, List.getLast?_map, Option.map_eq_some_iff] at last
      obtain ⟨d, there, dot⟩ := last
      have own := List.all_eq_true.mp named d (List.mem_of_getLast? there)
      have other := Text.getLast?_dropEnd there
      rw [(toLower_of_isNameChar own).2 dot] at other
      cases other
  · cases normalized

/-- **Normalizing twice is normalizing once.** -/
theorem normalize_normalize (normalized : Domain.normalize raw = some t) :
    Domain.normalize t = some t :=
  (normal_of_normalize normalized).normalize

end Domain

end CategoryFilter
