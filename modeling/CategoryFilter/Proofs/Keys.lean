/-
**The keys of different sets differ.**

A category's id may be any text, colons and the texts of other keys included. A key determines its
category (`hitKey_injective`, `passthroughKey_injective`, `dynamicKey_injective`), and the kinds of
sets are kept apart by the ends of their keys (`hitKey_ne_passthroughKey`) or by their first letters
(`dynamicKey_ne_hitKey`, `dynamicKey_ne_passthroughKey`).
-/

import CategoryFilter.Category.Name
import Mathlib.Logic.Function.Basic

namespace CategoryFilter.Category

/-- A text is determined by what comes of it between two fixed texts. -/
theorem between_injective (front back : String) :
    Function.Injective fun category : String => front ++ category ++ back := by
  intro first second same
  have lists := congrArg String.toList same
  simp only [String.toList_append, List.append_assoc, List.append_cancel_left_eq,
    List.append_cancel_right_eq] at lists
  exact String.toList_inj.mp lists

theorem hitKey_injective : Function.Injective hitKey := between_injective _ _

theorem passthroughKey_injective : Function.Injective passthroughKey := between_injective _ _

theorem dynamicKey_injective : Function.Injective dynamicKey := by
  intro first second same
  refine between_injective "dynamicCategoryDomain:" "" ?_
  simp only [String.append_empty]
  exact same

/-- The eighth letter from the end is a `t` in one kind of key and an `h` in the other. -/
theorem hitKey_ne_passthroughKey (first second : String) : hitKey first ≠ passthroughKey second := by
  intro same
  have ends := congrArg (fun key : String => key.toList.reverse.take 8) same
  simp [hitKey, passthroughKey] at ends

/-- A key of enforcement data starts with a `d`, a key of the other sets with a `c`. -/
theorem dynamicKey_ne_between (category other back : String) :
    dynamicKey category ≠ "category:" ++ other ++ back := by
  intro same
  have dynamic : "dynamicCategoryDomain:".toList = 'd' :: "ynamicCategoryDomain:".toList := by simp
  have plain : "category:".toList = 'c' :: "ategory:".toList := by simp
  have letters := congrArg (fun key : String => key.toList.head?) same
  unfold dynamicKey at letters
  simp only [String.toList_append, dynamic, plain, List.cons_append, List.head?_cons] at letters
  cases letters

theorem dynamicKey_ne_hitKey (first second : String) : dynamicKey first ≠ hitKey second :=
  dynamicKey_ne_between first second _

theorem dynamicKey_ne_passthroughKey (first second : String) :
    dynamicKey first ≠ passthroughKey second :=
  dynamicKey_ne_between first second _

end CategoryFilter.Category
