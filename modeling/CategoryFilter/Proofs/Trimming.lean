/-
**Texts without the blanks at their ends.**

* `Trims`: what was cut from the ends of a text is blank, and what is left neither begins nor ends with a
  blank. That determines it (`trims_iff`).
* `trim_pad`, `trim_lowerAscii`: blanks around a text make no difference, and its letters may be put into
  lower case before or after.
-/

import CategoryFilter.Text.Blank
import CategoryFilter.Text.LowerCase
import Mathlib.Data.List.TakeWhile

namespace CategoryFilter.Text

variable {p : Char → Bool} {cs front back core : List Char}

/-! ### One end -/

/-- A text whose last character stays is not cut. -/
theorem dropEnd_of_getLast (last : ∀ c ∈ cs.getLast?, p c = false) : dropEnd p cs = cs := by
  unfold dropEnd
  rcases order : cs.reverse with _ | ⟨c, before⟩
  · exact (List.reverse_eq_nil_iff.mp order).symm
  · have ends : c ∈ cs.getLast? := by
      rw [← List.head?_reverse, order]
      rfl
    rw [List.dropWhile_cons_of_neg (by rw [last c ends]; exact Bool.false_ne_true), ← order,
      List.reverse_reverse]

theorem getLast?_dropEnd {c : Char} (last : c ∈ (dropEnd p cs).getLast?) : p c = false := by
  have some : dropEnd p cs ≠ [] := by
    intro empty
    rw [empty] at last
    cases last
  rw [List.getLast?_eq_some_getLast some] at last
  cases last
  exact getLast_dropEnd some

/-- An end of characters of the class is cut. -/
theorem dropEnd_append (all : ∀ c ∈ back, p c = true) : dropEnd p (cs ++ back) = dropEnd p cs := by
  unfold dropEnd
  rw [List.reverse_append, List.dropWhile_append_of_pos]
  exact fun c listed => all c (List.mem_reverse.mp listed)

theorem exists_dropEnd (p : Char → Bool) (cs : List Char) :
    ∃ back, cs = dropEnd p cs ++ back ∧ ∀ c ∈ back, p c = true := by
  refine ⟨(cs.reverse.takeWhile p).reverse, ?_,
    fun c listed => List.mem_takeWhile_imp (List.mem_reverse.mp listed)⟩
  rw [dropEnd, ← List.reverse_append, List.takeWhile_append_dropWhile, List.reverse_reverse]

theorem dropEnd_map (f : Char → Char) : dropEnd p (cs.map f) = (dropEnd (p ∘ f) cs).map f := by
  rw [dropEnd, ← List.map_reverse, List.dropWhile_map, ← List.map_reverse, dropEnd]

/-! ### Both ends -/

/-- What is left of a text without the blanks at its ends. -/
structure Trims (cs core : List Char) : Prop where
  cut : ∃ front back, cs = front ++ core ++ back ∧ (∀ c ∈ front, isBlank c = true) ∧
    ∀ c ∈ back, isBlank c = true
  head : ∀ c ∈ core.head?, isBlank c = false
  last : ∀ c ∈ core.getLast?, isBlank c = false

/-- A text that neither begins nor ends with a blank is not trimmed. -/
theorem trim_of_ends (head : ∀ c ∈ cs.head?, isBlank c = false)
    (last : ∀ c ∈ cs.getLast?, isBlank c = false) : trim cs = cs := by
  have start : cs.dropWhile isBlank = cs := by
    cases cs with
    | nil => rfl
    | cons c rest =>
      exact List.dropWhile_cons_of_neg (by rw [head c rfl]; exact Bool.false_ne_true)
  rw [trim, start, dropEnd_of_getLast last]

/-- A text without blanks is not trimmed. -/
theorem trim_of_no_blank (clear : ∀ c ∈ cs, isBlank c = false) : trim cs = cs :=
  trim_of_ends (fun c head => clear c (List.mem_of_head? head))
    fun c last => clear c (List.mem_of_getLast? last)

/-- **Blanks around a text make no difference.** -/
theorem trim_pad (before : ∀ c ∈ front, isBlank c = true) (after : ∀ c ∈ back, isBlank c = true) :
    trim (front ++ cs ++ back) = trim cs := by
  unfold trim
  rw [List.append_assoc, List.dropWhile_append_of_pos before, List.dropWhile_append]
  split
  · next empty =>
    rw [List.isEmpty_iff.mp empty, List.dropWhile_eq_nil_iff.mpr after]
  · exact dropEnd_append after

theorem trims_trim (cs : List Char) : Trims cs (trim cs) := by
  obtain ⟨back, split, after⟩ := exists_dropEnd isBlank (cs.dropWhile isBlank)
  refine ⟨⟨cs.takeWhile isBlank, back, ?_, fun c listed => List.mem_takeWhile_imp listed, after⟩,
    fun c head => ?_, fun c last => getLast?_dropEnd last⟩
  · rw [trim, List.append_assoc, ← split, List.takeWhile_append_dropWhile]
  · have begins : (cs.dropWhile isBlank).head? = some c := by
      rw [split]
      show (trim cs ++ back).head? = some c
      rw [List.head?_append, Option.mem_def.mp head]
      rfl
    have first := List.head?_dropWhile_not isBlank cs
    rw [begins] at first
    exact first

/-- **What is left of a text is determined by that.** -/
theorem trims_iff : Trims cs core ↔ trim cs = core := by
  constructor
  · rintro ⟨⟨front, back, rfl, before, after⟩, head, last⟩
    rw [trim_pad before after, trim_of_ends head last]
  · rintro rfl
    exact trims_trim cs

/-! ### Lower case -/

theorem toLower_of_large {c : Char} (large : ¬ c.toNat < 128) : c.toLower = c := by
  unfold Char.toLower
  refine dif_neg fun upper => large ?_
  exact Nat.lt_of_le_of_lt (UInt32.le_iff_toNat_le.mp upper.2) (by decide)

/-- A property of characters that the ASCII ones keep in lower case is kept by all. -/
theorem toLower_keeps {q : Char → Bool}
    (ascii : ∀ n < 128, q (Char.ofNat n).toLower = q (Char.ofNat n)) (c : Char) :
    q c.toLower = q c := by
  by_cases small : c.toNat < 128
  · have own := ascii c.toNat small
    rwa [Char.ofNat_toNat] at own
  · rw [toLower_of_large small]

theorem toLower_toLower (c : Char) : c.toLower.toLower = c.toLower := by
  by_cases small : c.toNat < 128
  · have ascii : ∀ n < 128, (Char.ofNat n).toLower.toLower = (Char.ofNat n).toLower := by decide
    have own := ascii c.toNat small
    rwa [Char.ofNat_toNat] at own
  · rw [toLower_of_large small, toLower_of_large small]

theorem lowerAscii_lowerAscii (cs : List Char) : lowerAscii (lowerAscii cs) = lowerAscii cs := by
  unfold lowerAscii
  rw [List.map_map]
  exact List.map_congr_left fun c _ => toLower_toLower c

theorem isBlank_toLower (c : Char) : isBlank c.toLower = isBlank c :=
  toLower_keeps (by decide) c

/-- **A text may be put into lower case before or after it is trimmed.** -/
theorem trim_lowerAscii (cs : List Char) : trim (lowerAscii cs) = lowerAscii (trim cs) := by
  have same : isBlank ∘ Char.toLower = isBlank := funext isBlank_toLower
  rw [trim, lowerAscii, List.dropWhile_map, dropEnd_map, same]
  rfl

end CategoryFilter.Text
