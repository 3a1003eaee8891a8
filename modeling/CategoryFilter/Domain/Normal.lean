/-
The normal form of a detected name.

A name as it was seen on the network loses the blanks around it and the dots at its end and goes to
lower case. What is empty then, or holds a character outside letters, digits, dot, hyphen, underscore
and star, is no name.
-/

import CategoryFilter.Text.Blank
import CategoryFilter.Text.LowerCase

namespace CategoryFilter.Domain

/-- The characters a detected name may hold, letters of both cases among them. -/
def isNameChar (c : Char) : Bool :=
  c.isAlphanum || c == '.' || c == '-' || c == '_' || c == '*'

/-- The normal form of a name, if it has one. -/
def normalize (raw : String) : Option String :=
  let name := Text.dropEnd (· == '.') (Text.trim raw.toList)
  if !name.isEmpty && name.all isNameChar then some (String.ofList (Text.lowerAscii name)) else none

end CategoryFilter.Domain
