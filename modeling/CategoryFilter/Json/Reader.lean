/-
Reading JSON text.

`read` accepts one value with blanks around it and nothing else: no byte order mark, no trailing comma,
no raw control character in a string. Text that is not JSON has no value; well-formed text that stands
for no value is read as `illegible`. Bytes need not be a text: one that is part of no character is a fault,
except in a string, which it makes illegible. The loops are bounded by the length of the text, which every
step shortens.
-/

import CategoryFilter.Json.Basic

namespace CategoryFilter.Json

/-! ### Blanks and strings -/

/-- The text without the blanks at its beginning. -/
def skipBlank (cs : List Char) : List Char :=
  cs.dropWhile fun c => c == ' ' || c == '\n' || c == '\t' || c == '\r'

/-- The value of a hexadecimal digit. -/
def hexDigit? (c : Char) : Option Nat :=
  if '0' ≤ c ∧ c ≤ '9' then some (c.toNat - '0'.toNat)
  else if 'a' ≤ c ∧ c ≤ 'f' then some (c.toNat - 'a'.toNat + 10)
  else if 'A' ≤ c ∧ c ≤ 'F' then some (c.toNat - 'A'.toNat + 10)
  else none

/-- The value of four hexadecimal digits. -/
def hexValue? (a b c d : Char) : Option Nat := do
  return (((← hexDigit? a) * 16 + (← hexDigit? b)) * 16 + (← hexDigit? c)) * 16 + (← hexDigit? d)

/-- Whether a code unit is the first half of a surrogate pair. -/
def isHighSurrogate (n : Nat) : Bool :=
  0xD800 ≤ n && n < 0xDC00

/-- Whether a code unit is the second half of a surrogate pair. -/
def isLowSurrogate (n : Nat) : Bool :=
  0xDC00 ≤ n && n < 0xE000

/-- The character of a surrogate pair. -/
def ofSurrogates (high low : Nat) : Char :=
  Char.ofNat (0x10000 + (high - 0xD800) * 0x400 + (low - 0xDC00))

/-- The character that a backslash and a letter stand for. -/
def escaped? (c : Char) : Option Char :=
  match c with
  | '"' => some '"'
  | '\\' => some '\\'
  | '/' => some '/'
  | 'b' => some '\x08'
  | 'f' => some '\x0c'
  | 'n' => some '\n'
  | 'r' => some '\r'
  | 't' => some '\t'
  | _ => none

/-- A string being read: its characters, unless it is illegible, and the text that follows it. -/
abbrev StringRest := Option (List Char) × List Char

/-- Put a character before a string. -/
def consChar (c : Char) (r : StringRest) : StringRest :=
  (r.1.map (c :: ·), r.2)

/-- Put half a surrogate pair before a string, which makes it illegible. -/
def consHalf (r : StringRest) : StringRest :=
  (none, r.2)

/-- Make a string illegible if half a surrogate pair before it was left alone. -/
def flush (high : Option Nat) (r : StringRest) : StringRest :=
  if high.isSome then consHalf r else r

/-- The string whose opening quote is already read. `high` is the first half of a surrogate pair if the
escape just before was one. -/
def readString (high : Option Nat) (cs : List Char) : Option StringRest :=
  match cs with
  | [] => none
  | '"' :: rest => some (flush high (some [], rest))
  | '\\' :: 'u' :: a :: b :: c :: d :: rest =>
    match hexValue? a b c d with
    | none => none
    | some unit =>
      match high.filter fun _ => isLowSurrogate unit with
      | some first => (readString none rest).map (consChar (ofSurrogates first unit))
      | none =>
        if isHighSurrogate unit then (readString (some unit) rest).map (flush high)
        else if isLowSurrogate unit then (readString none rest).map consHalf
        else (readString none rest).map fun r => flush high (consChar (Char.ofNat unit) r)
  | '\\' :: c :: rest =>
    match escaped? c with
    | some plain => (readString none rest).map fun r => flush high (consChar plain r)
    | none => none
  | c :: rest =>
    if c.toNat < 0x20 then none
    else (readString none rest).map fun r => flush high (consChar c r)
termination_by structural cs

/-! ### Numbers -/

/-- The digits at the beginning of a text and what follows them. -/
def readDigits (cs : List Char) : List Char × List Char :=
  (cs.takeWhile Char.isDigit, cs.dropWhile Char.isDigit)

/-- The number that decimal digits stand for. -/
def digitsValue (digits : List Char) : Nat :=
  digits.foldl (fun n c => n * 10 + (c.toNat - '0'.toNat)) 0

/-- Whether a decimal number, an integer times a power of ten, rounds to a finite float. -/
def isFinite (mantissa : Nat) (digitCount : Nat) (exponent : Int) : Bool :=
  let bound := Nat.pow 2 1024 - Nat.pow 2 970
  if mantissa = 0 then true
  else if digitCount + exponent < 300 then true
  else if 400 < exponent then false
  else if 0 ≤ exponent then mantissa * Nat.pow 10 exponent.toNat < bound
  else mantissa < bound * Nat.pow 10 (-exponent).toNat

/-- The fraction of a number, if its point has digits after it. -/
def readFraction : List Char → Option (List Char × List Char)
  | '.' :: rest =>
    match readDigits rest with
    | ([], _) => none
    | found => some found
  | rest => some ([], rest)

/-- The exponent of a number, as it is written and as a value. -/
def readExponent : List Char → Option (List Char × Int × List Char)
  | [] => some ([], 0, [])
  | e :: rest =>
    if e = 'e' ∨ e = 'E' then
      let (sign, digits) :=
        match rest with
        | '+' :: digits => (['+'], digits)
        | '-' :: digits => (['-'], digits)
        | digits => ([], digits)
      match readDigits digits with
      | ([], _) => none
      | (found, after) =>
        let size : Int := digitsValue found
        some (e :: (sign ++ found), if sign = ['-'] then -size else size, after)
    else some ([], 0, e :: rest)

/-- Whether a whole number fits one of the two 64-bit types. -/
def fits64 (n : Int) : Bool :=
  Int64.minValue.toInt ≤ n && n < UInt64.size

/-- The number at the beginning of a text. -/
def readNumber (cs : List Char) : Option (Json × List Char) := do
  let (sign, unsigned) := match cs with
    | '-' :: rest => (['-'], rest)
    | _ => ([], cs)
  let (whole, afterWhole) := readDigits unsigned
  if whole.isEmpty || (whole.head? = some '0' && whole.length > 1) then none
  let (fraction, afterFraction) ← readFraction afterWhole
  let (exponentText, exponent, rest) ← readExponent afterFraction
  let size : Int := digitsValue whole
  let n := if sign.isEmpty then size else -size
  if fraction.isEmpty && exponentText.isEmpty && fits64 n && !(n = 0 && !sign.isEmpty) then
    return (.integer n, rest)
  let digits := whole ++ fraction
  let point := if fraction.isEmpty then [] else '.' :: fraction
  if isFinite (digitsValue digits) digits.length (exponent - fraction.length) then
    return (.real (String.ofList (sign ++ whole ++ point ++ exponentText)), rest)
  else return (.illegible, rest)

/-! ### Values -/

/-- The number of containers a value may be nested in, itself counted. -/
def maxDepth : Nat := 127

/-- Members being read: themselves, unless a name is illegible, and the text that follows them. -/
abbrev MembersRest := Option (List (String × Json)) × List Char

mutual

/-- The value at the beginning of a text, `depth` containers deep. -/
def readValue (fuel depth : Nat) (cs : List Char) : Option (Json × List Char) :=
  match fuel with
  | 0 => none
  | fuel + 1 =>
    match skipBlank cs with
    | 'n' :: 'u' :: 'l' :: 'l' :: rest => some (.null, rest)
    | 't' :: 'r' :: 'u' :: 'e' :: rest => some (.bool true, rest)
    | 'f' :: 'a' :: 'l' :: 's' :: 'e' :: rest => some (.bool false, rest)
    | '"' :: rest =>
      (readString none rest).map fun (s, after) =>
        ((s.map fun s => Json.text (String.ofList s)).getD .illegible, after)
    | '[' :: rest =>
      let items :=
        match skipBlank rest with
        | ']' :: after => some ([], after)
        | _ => readItems fuel (depth + 1) rest
      items.map fun (items, after) =>
        (if depth < maxDepth then .array items else .illegible, after)
    | '\x7b' :: rest =>
      let members :=
        match skipBlank rest with
        | '\x7d' :: after => some (some [], after)
        | _ => readMembers fuel (depth + 1) rest
      members.map fun (members, after) =>
        (if depth < maxDepth then (members.map Json.object).getD .illegible else .illegible, after)
    | rest => readNumber rest

/-- The items of an array up to its closing bracket. -/
def readItems (fuel depth : Nat) (cs : List Char) : Option (List Json × List Char) :=
  match fuel with
  | 0 => none
  | fuel + 1 => do
    let (item, rest) ← readValue fuel depth cs
    match skipBlank rest with
    | ']' :: after => some ([item], after)
    | ',' :: after => (readItems fuel depth after).map fun (items, after) => (item :: items, after)
    | _ => none

/-- The members of an object up to its closing brace. -/
def readMembers (fuel depth : Nat) (cs : List Char) : Option MembersRest :=
  match fuel with
  | 0 => none
  | fuel + 1 =>
    match skipBlank cs with
    | '"' :: rest => do
      let (name, rest) ← readString none rest
      match skipBlank rest with
      | ':' :: rest =>
        let (value, rest) ← readValue fuel depth rest
        let first := name.map fun name => (String.ofList name, value)
        match skipBlank rest with
        | '\x7d' :: after => some (first.map ([·]), after)
        | ',' :: after =>
          (readMembers fuel depth after).map fun (members, after) =>
            (first.bind fun first => members.map (first :: ·), after)
        | _ => none
      | _ => none
    | _ => none

end

/-- The value of characters that are exactly one JSON value. -/
def readChars (cs : List Char) : Option Json := do
  let (value, rest) ← readValue (cs.length + 1) 0 cs
  if (skipBlank rest).isEmpty then some value else none

/-- The value of a text that is exactly one JSON value. -/
def read (text : String) : Option Json :=
  readChars text.toList

/-! ### Bytes -/

/-- What stands for a byte that is part of no character: in a string, half a surrogate pair after a letter.
No token begins with the letter, and it is neither the letter of an escape nor a digit of one. -/
def strayByte : List Char := ['x', '\\', 'u', 'd', 'c', '0', '0']

/-- The characters of bytes from a place on. `fuel` bounds their number. -/
def decodeFrom (bytes : ByteArray) (fuel place : Nat) : List Char :=
  match fuel with
  | 0 => []
  | fuel + 1 =>
    match bytes.utf8DecodeChar? place with
    | some c => c :: decodeFrom bytes fuel (place + c.utf8Size)
    | none => if place < bytes.size then strayByte ++ decodeFrom bytes fuel (place + 1) else []

/-- The characters of bytes. -/
def decode (bytes : ByteArray) : List Char :=
  decodeFrom bytes bytes.size 0

/-- The value of bytes that are exactly one JSON value. -/
def readBytes (bytes : ByteArray) : Option Json :=
  readChars (decode bytes)

end CategoryFilter.Json
