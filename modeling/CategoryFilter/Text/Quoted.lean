/-
Quoted text, as messages show a string.

Quotes, backslashes and the four named control characters are escaped by a backslash. A character
that is invisible or attaches to the one before it is written as its code point in braces. Anything
else stands for itself.
-/

import CategoryFilter.Text.LowerCase
import CategoryFilter.Text.Table.Extending
import CategoryFilter.Text.Table.Unprintable

namespace CategoryFilter.Text

/-- Whether a character has a picture of its own. -/
def isPrintable (c : Char) : Bool :=
  !inRanges unprintableRanges c.toNat

/-- Whether a character attaches to the one before it. -/
def isExtending (c : Char) : Bool :=
  inRanges extendingRanges c.toNat

/-- A character by its code point: `\u`, then the hexadecimal digits in braces. -/
def codePointEscape (c : Char) : List Char :=
  '\\' :: 'u' :: '\x7b' :: (Nat.toDigits 16 c.toNat ++ ['\x7d'])

/-- How one character is written between quotes. -/
def quoteChar (c : Char) : List Char :=
  if c = '"' ∨ c = '\\' then ['\\', c]
  else if c = '\n' then ['\\', 'n']
  else if c = '\r' then ['\\', 'r']
  else if c = '\t' then ['\\', 't']
  else if c = Char.ofNat 0 then ['\\', '0']
  else if isExtending c || !isPrintable c then codePointEscape c
  else [c]

/-- The text between double quotes. -/
def quoted (s : String) : String :=
  String.ofList ('"' :: (s.toList.flatMap quoteChar ++ ['"']))

end CategoryFilter.Text
