/-
Socket addresses: an internet address with a port.

The text of an address of version 4 is four decimal numbers without leading zeros; one of version 6
stands in brackets, as eight groups of hexadecimal digits, of which a run of zero groups may be left out
and the last two may be written as an address of version 4. `parse?` reads a text, and `render` writes
an address in its one canonical form.
-/

namespace CategoryFilter

/-- An address that the interface can listen at. -/
inductive Address where
  | v4 (octets : List UInt8) (port : UInt16)
  | v6 (groups : List UInt16) (scope : UInt32) (port : UInt16)
deriving Repr, DecidableEq

namespace Address

/-! ### Reading -/

/-- The value of a digit, of up to sixteen. -/
def digitValue? (c : Char) : Option Nat :=
  if c.isDigit then some (c.toNat - 0x30)
  else if 'a' ≤ c ∧ c ≤ 'f' then some (c.toNat - 0x61 + 10)
  else if 'A' ≤ c ∧ c ≤ 'F' then some (c.toNat - 0x41 + 10)
  else none

/-- Whether a character is a digit of a base. -/
def isDigitOf (base : Nat) (c : Char) : Bool :=
  ((digitValue? c).getD base) < base

/-- The number with some digits. -/
def numberOf (base : Nat) (digits : List Char) : Nat :=
  digits.foldl (fun n c => n * base + (digitValue? c).getD 0) 0

/-- A number below a bound and what follows it. -/
def readNumber? (base bound : Nat) (cs : List Char) : Option (Nat × List Char) :=
  let digits := cs.takeWhile (isDigitOf base)
  let n := numberOf base digits
  if digits.isEmpty ∨ bound ≤ n then none else some (n, cs.dropWhile (isDigitOf base))

/-- A character that has to follow. -/
def expect? (c : Char) : List Char → Option (List Char)
  | d :: rest => if d = c then some rest else none
  | [] => none

/-- A number of an address of version 4. -/
def readOctet? (cs : List Char) : Option (UInt8 × List Char) :=
  let digits := cs.takeWhile (isDigitOf 10)
  if 3 < digits.length ∨ (digits.head? = some '0' ∧ 1 < digits.length) then none
  else (readNumber? 10 UInt8.size cs).map fun (n, rest) => (UInt8.ofNat n, rest)

/-- An address of version 4 without port. -/
def readV4? (cs : List Char) : Option (List UInt8 × List Char) := do
  let (a, cs) ← readOctet? cs
  let (b, cs) ← readOctet? (← expect? '.' cs)
  let (c, cs) ← readOctet? (← expect? '.' cs)
  let (d, cs) ← readOctet? (← expect? '.' cs)
  return ([a, b, c, d], cs)

/-- One group of an address of version 6. -/
def readGroup? (cs : List Char) : Option (UInt16 × List Char) :=
  if 4 < (cs.takeWhile (isDigitOf 16)).length then none
  else (readNumber? 16 UInt16.size cs).map fun (n, rest) => (UInt16.ofNat n, rest)

/-- An address of version 4 as two groups. -/
def pairOctets : List UInt8 → List UInt16
  | a :: b :: rest => (a.toUInt16 <<< 8 ||| b.toUInt16) :: pairOctets rest
  | _ => []

/-- What stands before a group: nothing before the first, a colon before any other. -/
def separate? (isFirst : Bool) (cs : List Char) : Option (List Char) :=
  if isFirst then some cs else expect? ':' cs

/-- Groups separated by colons, `room` at most, and whether they end with an address of version 4. -/
def readGroups (room : Nat) (isFirst : Bool) (cs : List Char) : List UInt16 × Bool × List Char :=
  match room with
  | 0 => ([], false, cs)
  | room + 1 =>
    match if 0 < room then (separate? isFirst cs).bind readV4? else none with
    | some (octets, rest) => (pairOctets octets, true, rest)
    | none =>
      match (separate? isFirst cs).bind readGroup? with
      | some (group, rest) =>
        let (groups, embedded, rest) := readGroups room false rest
        (group :: groups, embedded, rest)
      | none => ([], false, cs)

/-- An address of version 6 without brackets and port. -/
def readV6? (cs : List Char) : Option (List UInt16 × List Char) := do
  let (front, embedded, cs) := readGroups 8 true cs
  if front.length = 8 then return (front, cs)
  else if embedded then none
  else
    let cs ← expect? ':' (← expect? ':' cs)
    let (back, _, cs) := readGroups (7 - front.length) true cs
    return (front ++ List.replicate (8 - front.length - back.length) 0 ++ back, cs)

/-- The number of an address's scope, zero if there is none. -/
def readScope (cs : List Char) : UInt32 × List Char :=
  match (expect? '%' cs).bind (readNumber? 10 UInt32.size) with
  | some (n, rest) => (UInt32.ofNat n, rest)
  | none => (0, cs)

/-- A colon and a port at the end of a text. -/
def readPort? (cs : List Char) : Option UInt16 := do
  match ← readNumber? 10 UInt16.size (← expect? ':' cs) with
  | (n, []) => return UInt16.ofNat n
  | _ => none

/-- A socket address of version 4. -/
def parseV4? (cs : List Char) : Option Address := do
  let (octets, cs) ← readV4? cs
  return .v4 octets (← readPort? cs)

/-- A socket address of version 6. -/
def parseV6? (cs : List Char) : Option Address := do
  let (groups, cs) ← readV6? (← expect? '[' cs)
  let (scope, cs) := readScope cs
  return .v6 groups scope (← readPort? (← expect? ']' cs))

/-- The socket address that a text is. -/
def parse? (text : String) : Option Address :=
  parseV4? text.toList <|> parseV6? text.toList

/-! ### Writing -/

/-- Texts with a separator between them. -/
def joined (separator : Char) : List (List Char) → List Char
  | [] => []
  | [cs] => cs
  | cs :: rest => cs ++ separator :: joined separator rest

/-- Four numbers with dots. -/
def renderOctets (octets : List UInt8) : List Char :=
  joined '.' (octets.map fun o => Nat.toDigits 10 o.toNat)

/-- Groups with colons. -/
def renderGroups (groups : List UInt16) : List Char :=
  joined ':' (groups.map fun g => Nat.toDigits 16 g.toNat)

/-- The number of zeros at the beginning of some groups. -/
def leadingZeros (groups : List UInt16) : Nat :=
  (groups.takeWhile (· == 0)).length

/-- The first of the longest runs of zeros: how many groups stand before it, and its length. -/
def longestZeros : List UInt16 → Nat × Nat
  | [] => (0, 0)
  | group :: rest =>
    let here := leadingZeros (group :: rest)
    let (before, length) := longestZeros rest
    if length ≤ here then (0, here) else (before + 1, length)

/-- An address of version 6 without brackets and port. An address of version 4 that is mapped to
version 6 keeps its four numbers; of any other the longest run of two zero groups or more is left
out. -/
def renderV6 (groups : List UInt16) : List Char :=
  match groups with
  | [0, 0, 0, 0, 0, 0xFFFF, high, low] =>
    "::ffff:".toList ++
      renderOctets [(high >>> 8).toUInt8, high.toUInt8, (low >>> 8).toUInt8, low.toUInt8]
  | _ =>
    let (before, length) := longestZeros groups
    if 1 < length then
      renderGroups (groups.take before) ++ ':' :: ':' :: renderGroups (groups.drop (before + length))
    else renderGroups groups

/-- The canonical text of a socket address. -/
def render : Address → String
  | .v4 octets port =>
    String.ofList (renderOctets octets ++ ':' :: Nat.toDigits 10 port.toNat)
  | .v6 groups scope port =>
    let zone := if scope = 0 then [] else '%' :: Nat.toDigits 10 scope.toNat
    String.ofList ('[' :: (renderV6 groups ++ zone ++ ']' :: ':' :: Nat.toDigits 10 port.toNat))

/-! ### Listening -/

/-- Whether an address belongs to this machine whatever its network: it leads back to the machine, or
stands for all of its addresses. -/
def isLocal : Address → Bool
  | .v4 octets _ => octets.head? == some 127 || octets == [0, 0, 0, 0]
  | .v6 groups _ _ =>
    groups == [0, 0, 0, 0, 0, 0, 0, 1] || groups == [0, 0, 0, 0, 0, 0, 0, 0]

end Address

end CategoryFilter
