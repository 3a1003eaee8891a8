/-
The pieces of a text between separators.

There is one piece more than there are separators, and no piece holds a separator.
-/

namespace CategoryFilter.Text

/-- The pieces between the characters of a class. -/
def pieces (p : Char → Bool) : List Char → List (List Char)
  | [] => [[]]
  | c :: rest =>
    if p c then [] :: pieces p rest
    else
      match pieces p rest with
      | piece :: more => (c :: piece) :: more
      | [] => [[c]]

/-- There is one piece more than there are separators. -/
theorem length_pieces (p : Char → Bool) (cs : List Char) :
    (pieces p cs).length = cs.countP p + 1 := by
  induction cs with
  | nil => rfl
  | cons c rest ih =>
    by_cases separator : p c
    · simp [pieces, separator, ih]
    · cases h : pieces p rest with
      | nil => simp [h] at ih
      | cons piece more =>
        simp only [h, List.length_cons] at ih
        simp [pieces, separator, h, ih]

/-- No piece holds a separator. -/
theorem not_mem_pieces {p : Char → Bool} {cs piece : List Char} (inside : piece ∈ pieces p cs)
    {c : Char} (held : c ∈ piece) : p c = false := by
  induction cs generalizing piece with
  | nil =>
    simp only [pieces, List.mem_singleton] at inside
    simp [inside] at held
  | cons d rest ih =>
    by_cases separator : p d
    · simp only [pieces, separator, if_true, List.mem_cons] at inside
      rcases inside with rfl | inside
      · simp at held
      · exact ih inside held
    · cases h : pieces p rest with
      | nil => have := length_pieces p rest; simp [h] at this
      | cons first more =>
        simp only [pieces, separator, h, Bool.false_eq_true, if_false, List.mem_cons] at inside
        rcases inside with rfl | inside
        · rcases List.mem_cons.mp held with rfl | held
          · simpa using separator
          · exact ih (h ▸ List.mem_cons_self) held
        · exact ih (h ▸ List.mem_cons_of_mem _ inside) held

end CategoryFilter.Text
