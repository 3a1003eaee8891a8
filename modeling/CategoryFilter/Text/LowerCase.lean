/-
Full Unicode lower case.

Each character goes to its lower-case form. Two rules go beyond the table of single forms: the
dotted capital I becomes two characters, and a capital sigma at the end of a word becomes the final
sigma. `wordFinal` is the Unicode condition Final_Sigma: looking past case-ignorable characters,
there is a cased character before and none after.
-/

import CategoryFilter.Text.Table.Cased
import CategoryFilter.Text.Table.CaseIgnorable
import CategoryFilter.Text.Table.Lowercase

namespace CategoryFilter.Text

/-- Whether a code point lies in one of the inclusive ranges. -/
def inRanges (ranges : List (Nat × Nat)) (n : Nat) : Bool :=
  ranges.any fun r => r.1 ≤ n && n ≤ r.2

def isCased (c : Char) : Bool :=
  inRanges casedRanges c.toNat

def isCaseIgnorable (c : Char) : Bool :=
  inRanges caseIgnorableRanges c.toNat

/-- The lower-case form of a character that has a single one, else the character itself. -/
def lowerChar (c : Char) : Char :=
  if c.toNat < 0x80 then c.toLower
  else
    match lowercaseRuns.find? fun (first, last, step, _) =>
        first ≤ c.toNat && c.toNat ≤ last && (c.toNat - first) % step == 0 with
    | some (_, _, _, distance) => Char.ofNat (c.toNat + distance).toNat
    | none => c

/-- Whether the first character that is not case-ignorable exists and is cased. -/
def meetsCased (cs : List Char) : Bool :=
  match cs.dropWhile isCaseIgnorable with
  | c :: _ => isCased c
  | [] => false

/-- Whether a sigma between `before`, read backwards, and `after` ends a word. -/
def wordFinal (before after : List Char) : Bool :=
  meetsCased before && !meetsCased after

/-- Lower case of a text whose characters already passed are `before`, read backwards. -/
def lowerFrom (before : List Char) : List Char → List Char
  | [] => []
  | c :: after =>
    let form :=
      if c = 'Σ' then [if wordFinal before after then 'ς' else 'σ']
      else if c = 'İ' then ['i', Char.ofNat 0x307]
      else [lowerChar c]
    form ++ lowerFrom (c :: before) after

/-- The text in lower case. -/
def lowerCase (s : String) : String :=
  String.ofList (lowerFrom [] s.toList)

/-- The text with the capital letters A to Z in lower case and all else as it is. -/
def lowerAscii (cs : List Char) : List Char :=
  cs.map Char.toLower

end CategoryFilter.Text
