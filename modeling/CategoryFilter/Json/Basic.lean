/-
JSON values.

The members of an object keep their order and may repeat a name; what a repetition means is for the
reader of the object to say. `illegible` stands for a well-formed piece of text without a value of its
own: a string with half a surrogate pair, a number beyond every float, an object with such a string
among its names, or a container nested too deep. It may be passed over but not used.
-/

namespace CategoryFilter

/-- A JSON value. -/
inductive Json where
  | null
  | bool (b : Bool)
  /-- A whole number written without fraction and exponent that fits 64 bits. -/
  | integer (n : Int)
  /-- Any other number, as it was written. -/
  | real (literal : String)
  | text (s : String)
  | array (items : List Json)
  | object (members : List (String × Json))
  | illegible
deriving Repr, Inhabited, BEq

namespace Json

mutual

/-- Whether nothing in a value is illegible. -/
def isLegible : Json → Bool
  | .illegible => false
  | .array items => allLegible items
  | .object members => membersLegible members
  | _ => true

/-- Whether all of some values are legible. -/
def allLegible : List Json → Bool
  | [] => true
  | j :: rest => j.isLegible && allLegible rest

/-- Whether the values of all members are legible. -/
def membersLegible : List (String × Json) → Bool
  | [] => true
  | (_, j) :: rest => j.isLegible && membersLegible rest

end

/-- An array of texts. -/
def texts (ss : List String) : Json :=
  .array (ss.map .text)

/-- A text or null. -/
def optionalText (s : Option String) : Json :=
  (s.map Json.text).getD .null

end Json

end CategoryFilter
