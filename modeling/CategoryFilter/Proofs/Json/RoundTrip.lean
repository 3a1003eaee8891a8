/-
**Reading what was written.**

The text of a value is read as the value again, whatever text follows it:

* `readString_writeText`: a string, with every character that it may hold.
* `readNumber_write`: a whole number, where no digit, point or exponent follows.
* `readValue_write`: a value of such parts, with enough fuel; by induction on the value.
* `read_render`, `readBytes_render`: so the whole text is, and its bytes are.
-/

import CategoryFilter.Json.Reader
import CategoryFilter.Json.Writer
import CategoryFilter.Proofs.Bytes

namespace CategoryFilter.Json

/-! ### Strings -/

/-- The code of a control character, as four hexadecimal digits, is read again. -/
theorem hexValue?_hex4 {n : Nat} (control : n < 0x20) :
    ∃ a b c d, hex4 n = [a, b, c, d] ∧ hexValue? a b c d = some n := by
  have all : ∀ n < 0x20, hex4 n = ['0', '0', Nat.digitChar (n / 16), Nat.digitChar (n % 16)] ∧
      hexValue? '0' '0' (Nat.digitChar (n / 16)) (Nat.digitChar (n % 16)) = some n := by decide
  exact ⟨_, _, _, _, all n control⟩

/-- A character that stands for itself. -/
theorem readString_plain {c : Char} (quote : c ≠ '"') (backslash : c ≠ '\\') (plain : ¬ c.toNat < 0x20)
    (rest : List Char) : readString none (c :: rest) = (readString none rest).map (consChar c) := by
  rw [readString.eq_def]
  split
  · next same => cases same
  · next same => exact absurd (List.cons.inj same).1 quote
  · next same => exact absurd (List.cons.inj same).1 backslash
  · next same => exact absurd (List.cons.inj same).1 backslash
  · next same =>
    obtain ⟨rfl, rfl⟩ := List.cons.inj same
    rw [if_neg plain]
    rfl

/-- A control character without a letter of its own. -/
theorem readString_control {c : Char} (control : c.toNat < 0x20) (rest : List Char) :
    readString none ('\\' :: 'u' :: hex4 c.toNat ++ rest) =
      (readString none rest).map (consChar c) := by
  obtain ⟨x, y, z, w, digits, value⟩ := hexValue?_hex4 control
  have high : isHighSurrogate c.toNat = false := by
    rw [isHighSurrogate, Bool.and_eq_false_iff]
    exact Or.inl (decide_eq_false (by omega))
  have low : isLowSurrogate c.toNat = false := by
    rw [isLowSurrogate, Bool.and_eq_false_iff]
    exact Or.inl (decide_eq_false (by omega))
  rw [digits]
  simp [readString, value, high, low, Char.ofNat_toNat, flush]

/-- Reading takes back what writing does to one character. -/
theorem readString_escapeChar (c : Char) (rest : List Char) :
    readString none (escapeChar c ++ rest) = (readString none rest).map (consChar c) := by
  unfold escapeChar
  split
  · next marked => rcases marked with rfl | rfl <;> simp [readString, escaped?, flush]
  next unmarked =>
  obtain ⟨quote, backslash⟩ := not_or.mp unmarked
  split
  · next same => simp [same, readString, escaped?, flush]
  split
  · next same => simp [same, readString, escaped?, flush]
  split
  · next same => simp [same, readString, escaped?, flush]
  split
  · next same => simp [same, readString, escaped?, flush]
  split
  · next same => simp [same, readString, escaped?, flush]
  split
  · next control => exact readString_control control rest
  · next plain => exact readString_plain quote backslash plain rest

theorem readString_flatMap (cs rest : List Char) :
    readString none (cs.flatMap escapeChar ++ '"' :: rest) = some (some cs, rest) := by
  induction cs with
  | nil => rfl
  | cons c cs ih =>
    rw [List.flatMap_cons, List.append_assoc, readString_escapeChar, ih]
    rfl

/-- **A written string is read again.** -/
theorem readString_writeText (s : String) (rest : List Char) :
    ∃ body, writeText s ++ rest = '"' :: body ∧ readString none body = some (some s.toList, rest) := by
  refine ⟨s.toList.flatMap escapeChar ++ '"' :: rest, ?_, readString_flatMap s.toList rest⟩
  unfold writeText
  rw [List.cons_append, List.append_assoc]
  rfl

/-! ### Whole numbers -/

/-- A text that goes on with nothing of a number. -/
def NumberEnds (rest : List Char) : Prop :=
  ∀ c ∈ rest.head?, c.isDigit = false ∧ c ≠ '.' ∧ c ≠ 'e' ∧ c ≠ 'E'

variable {rest : List Char}

theorem readDigits_append (m : Nat) (ends : NumberEnds rest) :
    readDigits (Nat.toDigits 10 m ++ rest) = (Nat.toDigits 10 m, rest) := by
  have digits : ∀ c ∈ Nat.toDigits 10 m, c.isDigit = true := fun c listed =>
    Nat.isDigit_of_mem_toDigits (by decide) (by decide) listed
  unfold readDigits
  rw [List.takeWhile_append_of_pos digits, List.dropWhile_append_of_pos digits]
  cases rest with
  | nil => simp
  | cons c after =>
    have other : c.isDigit = false := (ends c rfl).1
    rw [List.takeWhile_cons_of_neg (by simp [other]), List.dropWhile_cons_of_neg (by simp [other]),
      List.append_nil]

theorem exists_digit_begins (m : Nat) : ∃ c cs, Nat.toDigits 10 m = c :: cs ∧ c.isDigit = true := by
  rcases digits : Nat.toDigits 10 m with _ | ⟨c, cs⟩
  · exact absurd digits Nat.toDigits_ne_nil
  · have listed : c ∈ Nat.toDigits 10 m := digits ▸ List.mem_cons_self
    exact ⟨c, cs, rfl, Nat.isDigit_of_mem_toDigits (by decide) (by decide) listed⟩

/-- Only the number zero begins with a zero. -/
theorem head?_toDigits {m : Nat} (positive : 0 < m) : (Nat.toDigits 10 m).head? ≠ some '0' := by
  induction m using Nat.strongRecOn with
  | ind m ih =>
    by_cases small : m < 10
    · have digit : ∀ d < 10, 0 < d → some d.digitChar ≠ some '0' := by decide
      rw [Nat.toDigits_of_lt_base small]
      exact digit m small positive
    · have large := Nat.le_of_not_lt small
      have first := ih (m / 10) (Nat.div_lt_self positive (by decide)) (Nat.div_pos large (by decide))
      rw [Nat.toDigits_of_base_le (by decide) large, List.head?_append]
      rcases digits : Nat.toDigits 10 (m / 10) with _ | ⟨c, cs⟩
      · exact absurd digits Nat.toDigits_ne_nil
      · rwa [digits] at first

theorem digitsValue_toDigits (m : Nat) : digitsValue (Nat.toDigits 10 m) = m := by
  have same : digitsValue (Nat.toDigits 10 m) = Nat.ofDigitChars 10 (Nat.toDigits 10 m) 0 := by
    unfold digitsValue Nat.ofDigitChars
    simp only [Nat.mul_comm]
  rw [same, Nat.ofDigitChars_toDigits (by decide) (by decide)]

theorem readFraction_ends (ends : NumberEnds rest) : readFraction rest = some ([], rest) := by
  unfold readFraction
  split
  · next after => exact absurd rfl (ends '.' rfl).2.1
  · rfl

theorem readExponent_ends (ends : NumberEnds rest) : readExponent rest = some ([], 0, rest) := by
  unfold readExponent
  split
  · rfl
  · next c after =>
    obtain ⟨-, -, small, large⟩ := ends c rfl
    rw [if_neg (not_or.mpr ⟨small, large⟩)]

/-- The digits of a number may stand for it: they do not begin with a needless zero. -/
theorem wellFormed_toDigits (m : Nat) : ((Nat.toDigits 10 m).isEmpty ||
    (decide ((Nat.toDigits 10 m).head? = some '0') && decide ((Nat.toDigits 10 m).length > 1))) = false := by
  rw [Bool.or_eq_false_iff, List.isEmpty_eq_false_iff]
  refine ⟨Nat.toDigits_ne_nil, ?_⟩
  rcases Nat.eq_zero_or_pos m with rfl | positive
  · rfl
  · rw [decide_eq_false (head?_toDigits positive), Bool.false_and]

theorem readNumber_unsigned {m : Nat} (fits : fits64 m = true) (ends : NumberEnds rest) :
    readNumber (Nat.toDigits 10 m ++ rest) = some (.integer m, rest) := by
  unfold readNumber
  split
  next sign unsigned start =>
    have plain : (sign, unsigned) = ([], Nat.toDigits 10 m ++ rest) := by
      rw [← start]
      split
      · next after minus =>
        obtain ⟨c, cs, digits, digit⟩ := exists_digit_begins m
        rw [digits] at minus
        rw [(List.cons.inj minus).1] at digit
        cases digit
      · rfl
    cases plain
    rw [readDigits_append m ends]
    dsimp only
    rw [wellFormed_toDigits, readFraction_ends ends, if_neg Bool.false_ne_true]
    simp [readExponent_ends ends, digitsValue_toDigits, fits]

theorem readNumber_negative {m : Nat} (fits : fits64 (.negSucc m) = true) (ends : NumberEnds rest) :
    readNumber ('-' :: (Nat.toDigits 10 (m + 1) ++ rest)) = some (.integer (.negSucc m), rest) := by
  have value : -((m : Int) + 1) = .negSucc m := rfl
  unfold readNumber
  split
  next sign unsigned start =>
    cases start
    rw [readDigits_append (m + 1) ends]
    dsimp only
    rw [wellFormed_toDigits, readFraction_ends ends, if_neg Bool.false_ne_true]
    simp [readExponent_ends ends, digitsValue_toDigits, value, fits]

theorem write_ofNat (m : Nat) : (Json.integer (.ofNat m)).write = Nat.toDigits 10 m := by
  show (toString m).toList = _
  rw [Nat.toString_eq_ofList_toDigits, String.toList_ofList]

theorem write_negSucc (m : Nat) :
    (Json.integer (.negSucc m)).write = '-' :: Nat.toDigits 10 (m + 1) := by
  show ("-" ++ toString (m + 1)).toList = _
  rw [String.toList_append, Nat.toString_eq_ofList_toDigits, String.toList_ofList, String.toList_ofList]
  rfl

/-- **A written whole number is read again.** -/
theorem readNumber_write {n : Int} (fits : fits64 n = true) (ends : NumberEnds rest) :
    readNumber ((Json.integer n).write ++ rest) = some (.integer n, rest) := by
  cases n with
  | ofNat m =>
    rw [write_ofNat]
    exact readNumber_unsigned fits ends
  | negSucc m =>
    rw [write_negSucc]
    exact readNumber_negative fits ends

/-- A number begins with a digit or with a sign. -/
theorem exists_integer_begins (n : Int) :
    ∃ c cs, (Json.integer n).write = c :: cs ∧ (c.isDigit = true ∨ c = '-') := by
  cases n with
  | ofNat m =>
    obtain ⟨c, cs, digits, digit⟩ := exists_digit_begins m
    exact ⟨c, cs, (write_ofNat m).trans digits, Or.inl digit⟩
  | negSucc m => exact ⟨'-', _, write_negSucc m, Or.inr rfl⟩

/-! ### Values -/

mutual

/-- A value that its text stands for, `depth` containers deep: its numbers are whole and fit 64 bits, nothing
in it is illegible, and it is not nested too deep. -/
def Writable (depth : Nat) : Json → Prop
  | .null | .bool _ | .text _ => True
  | .integer n => fits64 n = true
  | .real _ | .illegible => False
  | .array items => depth < maxDepth ∧ ItemsWritable (depth + 1) items
  | .object members => depth < maxDepth ∧ MembersWritable (depth + 1) members

/-- Values that their texts stand for. -/
def ItemsWritable (depth : Nat) : List Json → Prop
  | [] => True
  | j :: rest => j.Writable depth ∧ ItemsWritable depth rest

/-- Members whose values their texts stand for. -/
def MembersWritable (depth : Nat) : List (String × Json) → Prop
  | [] => True
  | (_, j) :: rest => j.Writable depth ∧ MembersWritable depth rest

end

/-- A character that may begin a value: no blank and no closing bracket. -/
abbrev Begins (c : Char) : Prop :=
  c ∉ [' ', '\n', '\t', '\r', ']']

theorem skipBlank_begins {c : Char} (begins : Begins c) (cs : List Char) :
    skipBlank (c :: cs) = c :: cs := by
  simp only [Begins, List.mem_cons, not_or] at begins
  obtain ⟨space, newline, tab, carriage, -⟩ := begins
  simp [skipBlank, space, newline, tab, carriage]

theorem begins_of_digit {c : Char} (digit : c.isDigit = true ∨ c = '-') : Begins c := by
  intro listed
  simp only [List.mem_cons, List.not_mem_nil, or_false] at listed
  rcases listed with rfl | rfl | rfl | rfl | rfl <;> revert digit <;> decide

/-- The text of a value begins with a character of its own. -/
theorem exists_begins {j : Json} {depth : Nat} (writable : j.Writable depth) :
    ∃ c cs, j.write = c :: cs ∧ Begins c := by
  cases j with
  | null => exact ⟨'n', _, rfl, by decide⟩
  | bool b =>
    cases b
    · exact ⟨'f', _, rfl, by decide⟩
    · exact ⟨'t', _, rfl, by decide⟩
  | integer n =>
    obtain ⟨c, cs, text, digit⟩ := exists_integer_begins n
    exact ⟨c, cs, text, begins_of_digit digit⟩
  | text s => exact ⟨'"', _, rfl, by decide⟩
  | array items => exact ⟨'[', _, rfl, by decide⟩
  | object members => exact ⟨'\x7b', _, rfl, by decide⟩
  | real literal => exact writable.elim
  | illegible => exact writable.elim

theorem exists_items_begins {j : Json} {depth : Nat} (writable : j.Writable depth) (items : List Json) :
    ∃ c cs, writeItems (j :: items) = c :: cs ∧ Begins c := by
  obtain ⟨c, cs, text, begins⟩ := exists_begins writable
  cases items with
  | nil =>
    refine ⟨c, cs ++ [']'], ?_, begins⟩
    show j.write ++ [']'] = _
    rw [text, List.cons_append]
  | cons next items =>
    refine ⟨c, cs ++ ',' :: writeItems (next :: items), ?_, begins⟩
    show j.write ++ ',' :: writeItems (next :: items) = _
    rw [text, List.cons_append]

/-- What begins like a number is read as one. -/
theorem readValue_digit {c : Char} (digit : c.isDigit = true ∨ c = '-') (fuel depth : Nat)
    (cs : List Char) : readValue (fuel + 1) depth (c :: cs) = readNumber (c :: cs) := by
  have other : ∀ {d : Char} {ds : List Char}, c :: cs = d :: ds → d ∉ ['n', 't', 'f', '"', '[', '\x7b'] := by
    rintro d ds same listed
    obtain ⟨rfl, -⟩ := List.cons.inj same
    simp only [List.mem_cons, List.not_mem_nil, or_false] at listed
    rcases listed with rfl | rfl | rfl | rfl | rfl | rfl <;> revert digit <;> decide
  rw [readValue, skipBlank_begins (begins_of_digit digit)]
  split
  · next same => exact absurd (by decide) (other same)
  · next same => exact absurd (by decide) (other same)
  · next same => exact absurd (by decide) (other same)
  · next same => exact absurd (by decide) (other same)
  · next same => exact absurd (by decide) (other same)
  · next same => exact absurd (by decide) (other same)
  · rfl

theorem numberEnds_cons {c : Char} (other : c.isDigit = false ∧ c ≠ '.' ∧ c ≠ 'e' ∧ c ≠ 'E')
    (cs : List Char) : NumberEnds (c :: cs) := by
  intro d first
  cases first
  exact other

theorem exists_members_quote (name : String) (j : Json) (members : List (String × Json)) :
    ∃ cs, writeMembers ((name, j) :: members) = '"' :: cs := by
  cases members with
  | nil => exact ⟨_, rfl⟩
  | cons next members => exact ⟨_, rfl⟩

/-- An array with items is read by its items. -/
theorem readValue_array {c : Char} (begins : Begins c) (fuel depth : Nat) (cs : List Char) :
    readValue (fuel + 1) depth ('[' :: c :: cs) =
      (readItems fuel (depth + 1) (c :: cs)).map fun (items, after) =>
        (if depth < maxDepth then .array items else .illegible, after) := by
  have opened : skipBlank ('[' :: c :: cs) = '[' :: c :: cs := rfl
  rw [readValue, opened]
  show Option.map _ _ = _
  rw [skipBlank_begins begins]
  refine congrArg (Option.map _) ?_
  split
  · next same =>
    obtain ⟨rfl, -⟩ := List.cons.inj same
    exact absurd (by decide) begins
  · rfl

/-- An object with members is read by its members. -/
theorem readValue_object (fuel depth : Nat) (cs : List Char) :
    readValue (fuel + 1) depth ('\x7b' :: '"' :: cs) =
      (readMembers fuel (depth + 1) ('"' :: cs)).map fun (members, after) =>
        (if depth < maxDepth then (members.map Json.object).getD .illegible else .illegible, after) :=
  rfl

theorem readItems_last {fuel depth : Nat} {cs rest : List Char} {j : Json}
    (value : readValue fuel depth cs = some (j, ']' :: rest)) :
    readItems (fuel + 1) depth cs = some ([j], rest) := by
  rw [readItems, value]
  rfl

theorem readItems_next {fuel depth : Nat} {cs later rest : List Char} {j : Json} {items : List Json}
    (value : readValue fuel depth cs = some (j, ',' :: later))
    (more : readItems fuel depth later = some (items, rest)) :
    readItems (fuel + 1) depth cs = some (j :: items, rest) := by
  rw [readItems, value]
  show (readItems fuel depth later).map _ = _
  rw [more]
  rfl

theorem readMembers_last {fuel depth : Nat} {cs rest : List Char} {j : Json} (name : String)
    (value : readValue fuel depth cs = some (j, '\x7d' :: rest)) :
    readMembers (fuel + 1) depth (writeText name ++ ':' :: cs) = some (some [(name, j)], rest) := by
  obtain ⟨body, text, string⟩ := readString_writeText name (':' :: cs)
  rw [text]
  show (readString none body).bind _ = _
  rw [string]
  show (readValue fuel depth cs).bind _ = _
  rw [value]
  show some (some [(String.ofList name.toList, j)], rest) = _
  rw [String.ofList_toList]

theorem readMembers_next {fuel depth : Nat} {cs later rest : List Char} {j : Json}
    {members : List (String × Json)} (name : String)
    (value : readValue fuel depth cs = some (j, ',' :: later))
    (more : readMembers fuel depth later = some (some members, rest)) :
    readMembers (fuel + 1) depth (writeText name ++ ':' :: cs) =
      some (some ((name, j) :: members), rest) := by
  obtain ⟨body, text, string⟩ := readString_writeText name (':' :: cs)
  rw [text]
  show (readString none body).bind _ = _
  rw [string]
  show (readValue fuel depth cs).bind _ = _
  rw [value]
  show (readMembers fuel depth later).map _ = _
  rw [more]
  show some (some ((String.ofList name.toList, j) :: members), rest) = _
  rw [String.ofList_toList]

mutual

/-- **A written value is read again**, whatever follows it. -/
theorem readValue_write (j : Json) (fuel depth : Nat) (rest : List Char) (writable : j.Writable depth)
    (enough : j.write.length ≤ fuel) (ends : NumberEnds rest) :
    readValue fuel depth (j.write ++ rest) = some (j, rest) := by
  obtain ⟨c, cs, text, begins⟩ := exists_begins writable
  cases fuel with
  | zero =>
    rw [text] at enough
    cases enough
  | succ fuel =>
    match j with
    | .null => rfl
    | .bool true => rfl
    | .bool false => rfl
    | .integer n =>
      obtain ⟨d, ds, text, digit⟩ := exists_integer_begins n
      have number := readNumber_write writable ends
      rw [text] at number ⊢
      exact (readValue_digit digit fuel depth _).trans number
    | .text s =>
      obtain ⟨body, text, string⟩ := readString_writeText s rest
      show readValue (fuel + 1) depth (writeText s ++ rest) = _
      rw [text]
      show (readString none body).map _ = _
      rw [string]
      exact congrArg (fun t => some (Json.text t, rest)) String.ofList_toList
    | .array [] => exact congrArg (fun j => some (j, rest)) (if_pos writable.1)
    | .array (first :: items) =>
      have inner := readItems_write first items fuel (depth + 1) rest writable.2
        (Nat.le_of_succ_le_succ enough)
      obtain ⟨d, ds, text, begins⟩ := exists_items_begins writable.2.1 items
      show readValue (fuel + 1) depth ('[' :: (writeItems (first :: items) ++ rest)) = _
      rw [text, List.cons_append] at inner ⊢
      rw [readValue_array begins, inner]
      exact congrArg (fun j => some (j, rest)) (if_pos writable.1)
    | .object [] => exact congrArg (fun j => some (j, rest)) (if_pos writable.1)
    | .object ((name, first) :: members) =>
      have inner := readMembers_write name first members fuel (depth + 1) rest writable.2
        (Nat.le_of_succ_le_succ enough)
      obtain ⟨more, text⟩ := exists_members_quote name first members
      show readValue (fuel + 1) depth ('\x7b' :: (writeMembers ((name, first) :: members) ++ rest)) = _
      rw [text, List.cons_append] at inner ⊢
      rw [readValue_object, inner]
      exact congrArg (fun j => some (j, rest)) (if_pos writable.1)
    | .real literal => exact writable.elim
    | .illegible => exact writable.elim
termination_by fuel

theorem readItems_write (j : Json) (items : List Json) (fuel depth : Nat) (rest : List Char)
    (writable : ItemsWritable depth (j :: items)) (enough : (writeItems (j :: items)).length ≤ fuel) :
    readItems fuel depth (writeItems (j :: items) ++ rest) = some (j :: items, rest) := by
  obtain ⟨c, cs, text, -⟩ := exists_items_begins writable.1 items
  cases fuel with
  | zero =>
    rw [text] at enough
    cases enough
  | succ fuel =>
    match items with
    | [] =>
      have shape : writeItems [j] ++ rest = j.write ++ ']' :: rest := List.append_assoc ..
      have length : (writeItems [j]).length = j.write.length + 1 := List.length_append
      rw [shape]
      refine readItems_last (readValue_write j fuel depth _ writable.1 ?_ (numberEnds_cons (by decide) _))
      omega
    | next :: items =>
      have shape : writeItems (j :: next :: items) ++ rest =
          j.write ++ ',' :: (writeItems (next :: items) ++ rest) := List.append_assoc ..
      have length : (writeItems (j :: next :: items)).length =
          j.write.length + ((writeItems (next :: items)).length + 1) := List.length_append
      rw [shape]
      refine readItems_next (readValue_write j fuel depth _ writable.1 ?_ (numberEnds_cons (by decide) _))
        (readItems_write next items fuel depth rest writable.2 ?_)
      · omega
      · omega
termination_by fuel

theorem readMembers_write (name : String) (j : Json) (members : List (String × Json)) (fuel depth : Nat)
    (rest : List Char) (writable : MembersWritable depth ((name, j) :: members))
    (enough : (writeMembers ((name, j) :: members)).length ≤ fuel) :
    readMembers fuel depth (writeMembers ((name, j) :: members) ++ rest) =
      some (some ((name, j) :: members), rest) := by
  obtain ⟨cs, text⟩ := exists_members_quote name j members
  cases fuel with
  | zero =>
    rw [text] at enough
    cases enough
  | succ fuel =>
    match members with
    | [] =>
      have shape : writeMembers [(name, j)] ++ rest =
          writeText name ++ ':' :: (j.write ++ '\x7d' :: rest) := by
        simp [writeMembers]
      have length : (writeMembers [(name, j)]).length =
          (writeText name).length + (j.write.length + 1 + 1) := by
        simp [writeMembers]
      rw [shape]
      refine readMembers_last name
        (readValue_write j fuel depth _ writable.1 ?_ (numberEnds_cons (by decide) _))
      omega
    | (other, next) :: members =>
      have shape : writeMembers ((name, j) :: (other, next) :: members) ++ rest = writeText name ++
          ':' :: (j.write ++ ',' :: (writeMembers ((other, next) :: members) ++ rest)) := by
        simp [writeMembers]
      have length : (writeMembers ((name, j) :: (other, next) :: members)).length =
          (writeText name).length +
            (j.write.length + ((writeMembers ((other, next) :: members)).length + 1) + 1) := by
        simp [writeMembers]
      rw [shape]
      refine readMembers_next name
        (readValue_write j fuel depth _ writable.1 ?_ (numberEnds_cons (by decide) _))
        (readMembers_write other next members fuel depth rest writable.2 ?_)
      · omega
      · omega
termination_by fuel

end

/-! ### Whole texts -/

/-- **The text of a value is read as the value.** -/
theorem read_render {j : Json} (writable : j.Writable 0) : read j.render = some j := by
  have value := readValue_write j (j.write.length + 1) 0 [] writable (Nat.le_succ _)
    fun _ impossible => nomatch impossible
  rw [List.append_nil] at value
  unfold read readChars render
  rw [String.toList_ofList]
  show (readValue (j.write.length + 1) 0 j.write).bind _ = _
  rw [value]
  rfl

/-! ### Bytes -/

/-- Characters are found behind other bytes. -/
theorem decodeFrom_append (cs : List Char) : ∀ (before : ByteArray) (fuel : Nat),
    cs.utf8Encode.size ≤ fuel → decodeFrom (before ++ cs.utf8Encode) fuel before.size = cs := by
  induction cs with
  | nil =>
    intro before fuel _
    have all : before ++ List.utf8Encode [] = before := ByteArray.append_empty
    rw [all]
    cases fuel with
    | zero => rfl
    | succ fuel =>
      have none : before.utf8DecodeChar? before.size = none := dif_neg (Nat.lt_irrefl _)
      rw [decodeFrom, none]
      exact if_neg (Nat.lt_irrefl _)
  | cons c cs ih =>
    intro before fuel enough
    have first : (before ++ (c :: cs).utf8Encode).utf8DecodeChar? before.size = some c := by
      rw [ByteArray.utf8DecodeChar?_eq_utf8DecodeChar?_extract,
        ByteArray.extract_append_eq_right rfl ByteArray.size_append]
      exact List.utf8DecodeChar?_utf8Encode_cons
    have width : (List.utf8Encode [c]).size = c.utf8Size := by
      rw [List.utf8Encode_singleton, List.size_toByteArray, String.length_utf8EncodeChar]
    have size : (c :: cs).utf8Encode.size = c.utf8Size + cs.utf8Encode.size := by
      rw [List.utf8Encode_cons, ByteArray.size_append, width]
    have positive := c.utf8Size_pos
    obtain ⟨fuel, rfl⟩ : ∃ less, fuel = less + 1 := Nat.exists_eq_succ_of_ne_zero (by omega)
    rw [decodeFrom, first]
    have later := ih (before ++ List.utf8Encode [c]) fuel (by omega)
    rw [ByteArray.append_assoc, ← List.utf8Encode_cons, ByteArray.size_append, width] at later
    exact congrArg (c :: ·) later

/-- The bytes of a text are its characters. -/
theorem decode_toUTF8 (text : String) : decode text.toUTF8 = text.toList := by
  have encoded : text.toUTF8 = text.toList.utf8Encode := by
    rw [← String.toByteArray_ofList, String.ofList_toList]
    rfl
  have found := decodeFrom_append text.toList .empty text.toUTF8.size (Nat.le_of_eq (congrArg _ encoded.symm))
  rw [ByteArray.empty_append, ← encoded] at found
  exact found

/-- A stray byte is no value, -/
theorem readValue_strayByte (fuel depth : Nat) (rest : List Char) :
    readValue fuel depth (strayByte ++ rest) = none := by
  cases fuel <;> rfl

/-- and makes a string illegible. -/
theorem readString_strayByte (high : Option Nat) (rest : List Char) :
    readString high (strayByte ++ rest) = (readString none rest).map consHalf := by
  show (((readString none rest).map consHalf).map _) = _
  rw [Option.map_map]
  congr 1
  funext r
  cases high <;> rfl

/-- **The bytes of a value's text are read as the value.** -/
theorem readBytes_render {j : Json} (writable : j.Writable 0) :
    readBytes j.render.toUTF8 = some j := by
  unfold readBytes
  rw [decode_toUTF8]
  exact read_render writable

end CategoryFilter.Json
