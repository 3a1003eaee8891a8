/-
JSON text of a value, without spaces.

Strings escape the quote, the backslash and the control characters, five of them by a letter; all other
characters stand for themselves.
-/

import CategoryFilter.Json.Basic

namespace CategoryFilter.Json

/-- Four hexadecimal digits. -/
def hex4 (n : Nat) : List Char :=
  let digits := Nat.toDigits 16 n
  List.replicate (4 - digits.length) '0' ++ digits

/-- How a character is written in a string. -/
def escapeChar (c : Char) : List Char :=
  if c = '"' ∨ c = '\\' then ['\\', c]
  else if c = '\n' then ['\\', 'n']
  else if c = '\r' then ['\\', 'r']
  else if c = '\t' then ['\\', 't']
  else if c = '\x08' then ['\\', 'b']
  else if c = '\x0c' then ['\\', 'f']
  else if c.toNat < 0x20 then '\\' :: 'u' :: hex4 c.toNat
  else [c]

/-- A string with its quotes. -/
def writeText (s : String) : List Char :=
  '"' :: (s.toList.flatMap escapeChar ++ ['"'])

mutual

/-- The characters of a value's text. -/
def write : Json → List Char
  | .null => "null".toList
  | .bool true => "true".toList
  | .bool false => "false".toList
  | .integer n => (toString n).toList
  | .real literal => literal.toList
  | .text s => writeText s
  | .array items => '[' :: writeItems items
  | .object members => '\x7b' :: writeMembers members
  | .illegible => "null".toList

/-- The items of an array and its closing bracket. -/
def writeItems : List Json → List Char
  | [] => [']']
  | [j] => j.write ++ [']']
  | j :: rest => j.write ++ ',' :: writeItems rest

/-- The members of an object and its closing brace. -/
def writeMembers : List (String × Json) → List Char
  | [] => ['\x7d']
  | [(name, j)] => writeText name ++ ':' :: (j.write ++ ['\x7d'])
  | (name, j) :: rest => writeText name ++ ':' :: (j.write ++ ',' :: writeMembers rest)

end

/-- The text of a value. -/
def render (j : Json) : String :=
  String.ofList j.write

end CategoryFilter.Json
