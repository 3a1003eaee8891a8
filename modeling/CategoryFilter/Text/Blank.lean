/-
Blank characters and what is cut from the ends of a text.

`isBlank` is the Unicode property White_Space. `trim` cuts blanks from both ends and `dropEnd` cuts
any class of characters from the end; neither looks inside the text that remains.
-/

namespace CategoryFilter.Text

/-- Blank characters: the Unicode property White_Space. -/
def isBlank (c : Char) : Bool :=
  let n := c.toNat
  (0x09 ≤ n && n ≤ 0x0D) || n == 0x20 || n == 0x85 || n == 0xA0 || n == 0x1680 ||
    (0x2000 ≤ n && n ≤ 0x200A) || n == 0x2028 || n == 0x2029 || n == 0x202F || n == 0x205F ||
    n == 0x3000

/-- The text without its longest end of characters in `p`. -/
def dropEnd (p : Char → Bool) (cs : List Char) : List Char :=
  (cs.reverse.dropWhile p).reverse

/-- The text without the blanks at either end. -/
def trim (cs : List Char) : List Char :=
  dropEnd isBlank (cs.dropWhile isBlank)

/-- No character of the class is left at the end. -/
theorem getLast_dropEnd {p : Char → Bool} {cs : List Char} (some : dropEnd p cs ≠ []) :
    p ((dropEnd p cs).getLast some) = false := by
  have nonempty : cs.reverse.dropWhile p ≠ [] := by
    intro empty
    exact some (by simp [dropEnd, empty])
  have h := List.head_dropWhile_not p nonempty
  simpa [dropEnd, List.getLast_reverse] using h

end CategoryFilter.Text
