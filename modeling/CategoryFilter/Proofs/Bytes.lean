/-
**The order of texts is the order of their bytes.**

Texts are compared letter by letter. In UTF-8 the forms of two letters differ before either of them ends,
and at the first byte where they differ the smaller letter has the smaller one (`encode_append_lt`). So
texts may as well be compared byte by byte (`lt_iff_bytes`).
-/

import CategoryFilter.Proofs.Order
import Mathlib.Data.List.Basic

namespace CategoryFilter.Text

/-- The bytes of a text in UTF-8. -/
def bytes (x : String) : List UInt8 :=
  x.toUTF8.data.toList

theorem bytes_eq (x : String) : bytes x = x.toList.flatMap String.utf8EncodeChar := by
  have encoded : x.toByteArray = x.toList.utf8Encode := by
    rw [← String.toByteArray_ofList, String.ofList_toList]
  unfold bytes
  rw [String.toUTF8_eq_toByteArray, encoded, List.utf8Encode, List.data_toByteArray]

/-- A text is read from its bytes. -/
theorem fromUTF8?_toUTF8 (x : String) : String.fromUTF8? x.toUTF8 = some x :=
  dif_pos x.isValidUTF8

theorem val_le (c : Char) : c.val.toNat ≤ 0x10FFFF := by
  have valid := c.valid
  unfold UInt32.isValidChar Nat.isValidChar at valid
  omega

/-- Four digits are compared in their order: the first that differs decides, whatever follows. -/
theorem digits_lt {v w : Nat} (less : v < w) (rest : Prop) :
    v / 262144 < w / 262144 ∨ v / 262144 = w / 262144 ∧
      (v / 4096 % 64 < w / 4096 % 64 ∨ v / 4096 % 64 = w / 4096 % 64 ∧
        (v / 64 % 64 < w / 64 % 64 ∨ v / 64 % 64 = w / 64 % 64 ∧
          (v % 64 < w % 64 ∨ v % 64 = w % 64 ∧ rest))) := by
  by_cases first : v / 262144 = w / 262144
  · by_cases second : v / 4096 = w / 4096
    · by_cases third : v / 64 = w / 64
      · omega
      · omega
    · omega
  · omega

/-- **A smaller letter has a smaller form**, whatever follows the two forms. -/
theorem encode_append_lt {c d : Char} (less : c < d) (s t : List UInt8) :
    String.utf8EncodeChar c ++ s < String.utf8EncodeChar d ++ t := by
  have less : c.val.toNat < d.val.toNat := less
  have bound := val_le d
  have digits := digits_lt less (s < t)
  unfold String.utf8EncodeChar
  generalize c.val.toNat = v at *
  generalize d.val.toNat = w at *
  dsimp only
  -- Forms of different lengths differ at their first byte, which is larger the longer the form is.
  split_ifs <;>
    simp (disch := omega) only [List.cons_append, List.nil_append, List.cons_lt_cons_iff,
      UInt8.lt_iff_toNat_lt, ← UInt8.toNat_inj, UInt8.toNat_ofNat', Nat.mod_eq_of_lt] <;>
    omega

theorem encode_ne_nil (c : Char) : String.utf8EncodeChar c ≠ [] := by
  unfold String.utf8EncodeChar
  dsimp only
  split_ifs <;> exact List.cons_ne_nil _ _

theorem flatMap_encode_lt {xs ys : List Char} (less : xs < ys) :
    xs.flatMap String.utf8EncodeChar < ys.flatMap String.utf8EncodeChar := by
  induction xs generalizing ys with
  | nil =>
    cases ys with
    | nil => exact absurd less (List.lt_irrefl _)
    | cons d ys =>
      obtain ⟨first, rest, form⟩ := List.exists_cons_of_ne_nil (encode_ne_nil d)
      rw [List.flatMap_cons, form]
      exact List.nil_lt_cons _ _
  | cons c xs ih =>
    cases ys with
    | nil => exact absurd less (List.not_lt_nil _)
    | cons d ys =>
      rw [List.flatMap_cons, List.flatMap_cons]
      rcases List.cons_lt_cons_iff.mp less with first | ⟨rfl, later⟩
      · exact encode_append_lt first _ _
      · exact List.append_left_lt (ih later)

/-- **Texts are ordered by their bytes.** -/
theorem lt_iff_bytes {x y : String} : x < y ↔ bytes x < bytes y := by
  have forward : ∀ {x y : String}, x < y → bytes x < bytes y := by
    intro x y less
    rw [bytes_eq, bytes_eq]
    exact flatMap_encode_lt (String.lt_iff.mp less)
  refine ⟨forward, fun less => ?_⟩
  rcases lt_or_eq_or_gt x y with before | rfl | after
  · exact before
  · exact absurd less (List.lt_irrefl _)
  · exact absurd less (List.lt_asymm (forward after))

end CategoryFilter.Text
