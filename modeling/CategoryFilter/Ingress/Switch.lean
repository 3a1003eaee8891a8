/-
Reading the body that switches the feature.

The body is a record with the one field `enabled`. Two kinds of faults are told apart: text that is not
JSON, and JSON of another shape. The body is read from its beginning, and its first fault counts.
-/

import CategoryFilter.Json.Reader

namespace CategoryFilter.Switch

/-- What is wrong with a body. -/
inductive Fault where
  /-- The text is not JSON. -/
  | syntactic
  /-- The text is JSON so far, but of another shape. -/
  | shape
deriving Repr, DecidableEq

open Json (skipBlank readString readNumber readValue)

/-- The fault of a value of another type. -/
def otherType (cs : List Char) : Fault :=
  match skipBlank cs with
  | 'n' :: 'u' :: 'l' :: 'l' :: _ => .shape
  | 't' :: 'r' :: 'u' :: 'e' :: _ => .shape
  | 'f' :: 'a' :: 'l' :: 's' :: 'e' :: _ => .shape
  | '[' :: _ => .shape
  | '\x7b' :: _ => .shape
  | '"' :: rest =>
    match readString none rest with
    | some (some _, _) => .shape
    | _ => .syntactic
  | rest =>
    match readNumber rest with
    | some (.illegible, _) => .syntactic
    | some _ => .shape
    | none => .syntactic

/-- A truth value and what follows it. -/
def readBool (cs : List Char) : Except Fault (Bool × List Char) :=
  match skipBlank cs with
  | 't' :: 'r' :: 'u' :: 'e' :: rest => .ok (true, rest)
  | 'f' :: 'a' :: 'l' :: 's' :: 'e' :: rest => .ok (false, rest)
  | rest => .error (otherType rest)

/-- The members of the record up to its closing brace. `fuel` bounds their number, and `found` is the
field if it occurred before. -/
def readMembers (fuel : Nat) (found : Option Bool) (cs : List Char) :
    Except Fault (Bool × List Char) :=
  match fuel with
  | 0 => .error .syntactic
  | fuel + 1 => do
    match skipBlank cs with
    | '"' :: rest =>
      match readString none rest with
      | some (some name, rest) =>
        let ours := String.ofList name == "enabled"
        if ours && found.isSome then throw .shape
        match skipBlank rest with
        | ':' :: rest =>
          let (found, rest) ←
            if ours then (readBool rest).map fun (b, rest) => (some b, rest)
            else
              match readValue (rest.length + 1) 1 rest with
              | some (_, rest) => .ok (found, rest)
              | none => .error .syntactic
          match skipBlank rest with
          | '\x7d' :: after =>
            match found with
            | some b => return (b, after)
            | none => throw .shape
          | ',' :: after => readMembers fuel found after
          | _ => throw .syntactic
        | _ => throw .syntactic
      | _ => throw .syntactic
    | _ => throw .syntactic

/-- The switch at the beginning of a text and what follows it. -/
def readRecord (cs : List Char) : Except Fault (Bool × List Char) := do
  match skipBlank cs with
  | '\x7b' :: rest =>
    match skipBlank rest with
    | '\x7d' :: _ => throw .shape
    | _ => readMembers (rest.length + 1) none rest
  | '[' :: rest =>
    match skipBlank rest with
    | ']' :: _ => throw .shape
    | _ =>
      let (b, rest) ← readBool rest
      match skipBlank rest with
      | ']' :: after => return (b, after)
      | _ => throw .syntactic
  | rest => throw (otherType rest)

/-- The switch that a body asks for. -/
def read (body : ByteArray) : Except Fault Bool := do
  let (b, rest) ← readRecord (Json.decode body)
  if (skipBlank rest).isEmpty then return b else throw .syntactic

end CategoryFilter.Switch
