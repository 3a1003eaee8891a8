/-
Reading typed values from JSON.

A reader gives a value or nothing. A record is an object, matched by the names of its fields whatever
their order, or an array of its fields in their fixed order. Further members are passed over, a field
that occurs twice is refused, and so is an array with more items than fields. A tagged value is an
object with its tag among the members or an array with the tag first; unlike a record it is refused if
anything in it is illegible.
-/

import CategoryFilter.Json.Basic

namespace CategoryFilter.Json

/-! ### Single values -/

def bool? : Json → Option Bool
  | .bool b => some b
  | _ => none

def text? : Json → Option String
  | .text s => some s
  | _ => none

/-- A whole number of 32 bits without sign. -/
def uint32? : Json → Option UInt32
  | .integer n => if 0 ≤ n ∧ n < UInt32.size then some (UInt32.ofNat n.toNat) else none
  | _ => none

/-- A whole number of 64 bits without sign. -/
def uint64? : Json → Option UInt64
  | .integer n => if 0 ≤ n ∧ n < UInt64.size then some (UInt64.ofNat n.toNat) else none
  | _ => none

/-- A whole number of 64 bits with sign. -/
def int64? : Json → Option Int64
  | .integer n =>
    if Int64.minValue.toInt ≤ n ∧ n ≤ Int64.maxValue.toInt then some (Int64.ofInt n) else none
  | _ => none

/-- An array of values. -/
def list? {α : Type} (item : Json → Option α) : Json → Option (List α)
  | .array items => items.mapM item
  | _ => none

/-- Null or a value. -/
def optional? {α : Type} (value : Json → Option α) : Json → Option (Option α)
  | .null => some none
  | j => (value j).map some

/-- Any value without illegible parts. -/
def any? (j : Json) : Option Json :=
  if j.isLegible then some j else none

/-! ### Records -/

/-- The fields of a record: each name that occurs, with its value. -/
abbrev Fields := List (String × Json)

/-- The fields of a record with the given names. -/
def record? (names : List String) : Json → Option Fields
  | .object members =>
    let known := members.filter fun m => names.contains m.1
    if (known.map Prod.fst).Nodup then some known else none
  | .array items => if items.length ≤ names.length then some (names.zip items) else none
  | _ => none

/-- A field that has to be there. -/
def Fields.required {α : Type} (fields : Fields) (name : String) (value : Json → Option α) :
    Option α :=
  (fields.lookup name).bind value

/-- A field with a value for its absence. -/
def Fields.optional {α : Type} (fields : Fields) (name : String) (absent : α)
    (value : Json → Option α) : Option α :=
  match fields.lookup name with
  | some j => value j
  | none => some absent

/-- The tag of a tagged value, and the value without it. -/
def tagged? (tag : String) (j : Json) : Option (String × Json) :=
  if !j.isLegible then none
  else
    match j with
    | .object members =>
      match members.partition fun m => m.1 = tag with
      | ([(_, .text name)], rest) => some (name, .object rest)
      | _ => none
    | .array (.text name :: rest) => some (name, .array rest)
    | _ => none

end CategoryFilter.Json
