/-
The request target of a URL.

Of a web address a request carries the path and the query, both in normal form: a backslash counts as a
slash, dot segments are resolved, and what may not stand in an address is written as the percent
escapes of its UTF-8 bytes. The fragment stays behind. `requestTarget?` gives nothing for a text that
is no web address.
-/

import CategoryFilter.Text.Blank
import CategoryFilter.Text.LowerCase
import CategoryFilter.Text.Pieces

namespace CategoryFilter.Url

/-! ### Percent escapes -/

/-- A hexadecimal digit in upper case. -/
def upperHexDigit (n : Nat) : Char :=
  if n < 10 then Char.ofNat (0x30 + n) else Char.ofNat (0x41 + (n - 10))

/-- A byte as a percent escape. -/
def escapeByte (b : UInt8) : List Char :=
  ['%', upperHexDigit (b.toNat / 16), upperHexDigit (b.toNat % 16)]

/-- The percent escapes of a character's UTF-8 bytes. -/
def escapeChar (c : Char) : List Char :=
  (String.singleton c).toUTF8.toList.flatMap escapeByte

/-- Whether a character is escaped wherever it stands. -/
def isForeign (c : Char) : Bool :=
  c.toNat ≤ 0x20 || 0x7F ≤ c.toNat || c == '"' || c == '<' || c == '>' || c == '#'

/-- How a character is written in a path. -/
def writePathChar (c : Char) : List Char :=
  if isForeign c || c == '?' || c == '^' || c.toNat == 0x60 || c == '\x7b' || c == '\x7d' then
    escapeChar c
  else [c]

/-- How a character is written in a query. -/
def writeQueryChar (c : Char) : List Char :=
  if isForeign c || c == '\'' then escapeChar c else [c]

/-! ### Segments of a path -/

/-- Whether a character separates the segments of a path. -/
def isSlash (c : Char) : Bool :=
  c == '/' || c == '\\'

/-- A segment with its escaped dots in plain. -/
def plainDots : List Char → List Char
  | '%' :: '2' :: 'e' :: rest | '%' :: '2' :: 'E' :: rest => '.' :: plainDots rest
  | c :: rest => c :: plainDots rest
  | [] => []

/-- Resolve the dot segments. `above` holds the segments so far, the last one first. A dot segment at
the end leaves an empty one. -/
def resolveDots (above : List (List Char)) : List (List Char) → List (List Char)
  | [] => above.reverse
  | segment :: rest =>
    let atEnd := rest.isEmpty
    if plainDots segment = ['.', '.'] then
      resolveDots (if atEnd then [] :: above.tail else above.tail) rest
    else if plainDots segment = ['.'] then
      resolveDots (if atEnd then [] :: above else above) rest
    else resolveDots (segment :: above) rest

/-- A path in normal form. -/
def writePath (cs : List Char) : List Char :=
  (resolveDots [] (Text.pieces isSlash cs)).flatMap fun segment => '/' :: segment.flatMap writePathChar

/-! ### Whole addresses -/

/-- Whether a character is dropped wherever it stands. -/
def isLineChar (c : Char) : Bool :=
  c == '\t' || c == '\n' || c == '\r'

/-- Whether a character ends the host part. -/
def endsHost (c : Char) : Bool :=
  isSlash c || c == '?' || c == '#'

/-- Whether a character may stand in a host's name or number. -/
def isHostChar (c : Char) : Bool :=
  c.isAlphanum || c == '-' || c == '.' || c == '_' || 0x80 ≤ c.toNat

/-- Whether a port is absent, empty or a number of 16 bits. -/
def isPort : List Char → Bool
  | [] => true
  | ':' :: digits => digits.all Char.isDigit && (String.ofList digits).toNat?.getD 0 < UInt16.size
  | _ => false

/-- Whether a host part is a name or number, perhaps with a port. -/
def isHost (cs : List Char) : Bool :=
  let name := cs.takeWhile (· != ':')
  !name.isEmpty && name.all isHostChar && isPort (cs.dropWhile (· != ':'))

/-- What follows the scheme of a web address. -/
def afterScheme? (cs : List Char) : Option (List Char) :=
  let scheme := Text.lowerAscii (cs.takeWhile (· != ':'))
  if scheme = "http".toList ∨ scheme = "https".toList then
    some (cs.dropWhile (· != ':')).tail
  else none

/-- The request target of what follows the host. -/
def targetOf (cs : List Char) : List Char :=
  let address := cs.takeWhile (· != '#')
  let path := address.takeWhile (· != '?')
  let query := address.dropWhile (· != '?')
  writePath (if path.isEmpty then [] else path.tail) ++ query.flatMap writeQueryChar

/-- The request target of a web address. -/
def requestTarget? (url : String) : Option String := do
  let isEdge (c : Char) : Bool := c.toNat ≤ 0x20
  let cs := (Text.dropEnd isEdge (url.toList.dropWhile isEdge)).filter fun c => !isLineChar c
  let rest := (← afterScheme? cs).dropWhile isSlash
  if isHost (rest.takeWhile fun c => !endsHost c) then
    return String.ofList (targetOf (rest.dropWhile fun c => !endsHost c))
  else none

end CategoryFilter.Url
