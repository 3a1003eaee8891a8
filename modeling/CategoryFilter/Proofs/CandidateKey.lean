/-
**Keys of candidates.**

A key is divided at its first two colons, so that only the origin may hold more of them.

* `splitColon_append`, `eq_append_of_splitColon`: a text divided at its first colon.
* `Separable`: the candidates whose parts a key keeps apart.
* `ofKey?_eq_ok_iff`: the candidate of a text is the separable one whose key it is.
* `keys_separate`: which texts are keys, and which candidates their keys determine.
-/

import CategoryFilter.Candidate

namespace CategoryFilter.Candidate

variable {text front back : List Char} {c : Candidate} {key : String}

/-! ### Dividing a text -/

theorem splitColon_append (plain : ':' ∉ front) (back : List Char) :
    splitColon (front ++ ':' :: back) = some (front, back) := by
  induction front with
  | nil => rfl
  | cons d rest ih =>
    obtain ⟨other, plain⟩ := not_or.mp (mt List.mem_cons.mpr plain)
    rw [List.cons_append, splitColon, if_neg (Ne.symm other), ih plain]
    rfl

theorem eq_append_of_splitColon (split : splitColon text = some (front, back)) :
    ':' ∉ front ∧ text = front ++ ':' :: back := by
  induction text generalizing front with
  | nil => cases split
  | cons d rest ih =>
    unfold splitColon at split
    split at split
    · next colon =>
      cases split
      exact ⟨List.not_mem_nil, congrArg (· :: back) colon⟩
    · next other =>
      obtain ⟨⟨before, after⟩, found, joined⟩ := Option.map_eq_some_iff.mp split
      cases joined
      obtain ⟨plain, rfl⟩ := ih found
      exact ⟨fun listed => (List.mem_cons.mp listed).elim (fun same => other same.symm) plain, rfl⟩

/-! ### Separable candidates -/

/-- The parts of a candidate that its key keeps apart: none is empty, and only the origin may hold colons. -/
structure Separable (c : Candidate) : Prop where
  category : c.category ≠ "" ∧ ':' ∉ c.category.toList
  pattern : c.pattern ≠ "" ∧ ':' ∉ c.pattern.toList
  origin : c.origin ≠ ""

theorem toList_key (c : Candidate) :
    c.key.toList = c.category.toList ++ ':' :: (c.pattern.toList ++ ':' :: c.origin.toList) := by
  simp [Candidate.key]

theorem ofKey?_key (separable : c.Separable) : ofKey? c.key = .ok c := by
  obtain ⟨category, pattern, origin⟩ := separable
  have filled : (c.category.toList.isEmpty || c.pattern.toList.isEmpty || c.origin.toList.isEmpty) =
      false := by
    simp [category.1, pattern.1, origin]
  unfold ofKey?
  rw [toList_key, splitColon_append category.2]
  dsimp only [bind, Option.bind]
  rw [splitColon_append pattern.2]
  dsimp only
  rw [filled]
  simp

theorem key_of_ofKey? (read : ofKey? key = .ok c) : c.Separable ∧ c.key = key := by
  unfold ofKey? at read
  dsimp only at read
  split at read
  · next found =>
    cases read
    obtain ⟨⟨category, rest⟩, first, found⟩ := Option.bind_eq_some_iff.mp found
    obtain ⟨⟨pattern, origin⟩, second, found⟩ := Option.bind_eq_some_iff.mp found
    dsimp only at found
    split at found
    · cases found
    · next filled =>
      cases found
      obtain ⟨plain, parts⟩ := eq_append_of_splitColon first
      obtain ⟨plain', rfl⟩ := eq_append_of_splitColon second
      simp only [Bool.or_eq_true, List.isEmpty_iff, not_or] at filled
      obtain ⟨⟨category', pattern'⟩, origin'⟩ := filled
      refine ⟨⟨⟨?_, ?_⟩, ⟨?_, ?_⟩, ?_⟩, ?_⟩
      · simpa using category'
      · simpa using plain
      · simpa using pattern'
      · simpa using plain'
      · simpa using origin'
      · rw [← String.toList_inj, toList_key, parts]
        simp
  · cases read

/-- **A text has a candidate if it is the key of a separable one.** -/
theorem ofKey?_eq_ok_iff : ofKey? key = .ok c ↔ c.Separable ∧ c.key = key := by
  refine ⟨key_of_ofKey?, ?_⟩
  rintro ⟨separable, rfl⟩
  exact ofKey?_key separable

/-- A text that is no key is reported as it is. -/
theorem text_of_ofKey?_error {e : KeyError} (refused : ofKey? key = .error e) : e.text = key := by
  unfold ofKey? at refused
  dsimp only at refused
  split at refused
  · cases refused
  · cases refused
    rfl

/-! ### Keys -/

/-- **Keys determine the separable candidates, and no others.** A text is read exactly if colons divide it
into a category and a pattern without colons and an origin, none of them empty; then it is the key of what was
read, and else it is refused as it is. A candidate is read from its key exactly if it is separable, so that
two of these with one key are the same. -/
theorem keys_separate :
    (∀ text, (∃ c, ofKey? text = .ok c) ↔ ∃ category pattern origin : String,
      text = category ++ ":" ++ pattern ++ ":" ++ origin ∧ (category ≠ "" ∧ ':' ∉ category.toList) ∧
        (pattern ≠ "" ∧ ':' ∉ pattern.toList) ∧ origin ≠ "") ∧
    (∀ text c, ofKey? text = .ok c → c.key = text) ∧
    (∀ text e, ofKey? text = .error e → e = ⟨text⟩) ∧
    (∀ c : Candidate, ofKey? c.key = .ok c ↔ c.Separable) ∧
    ∀ first second : Candidate, first.Separable → second.Separable → first.key = second.key →
      first = second := by
  refine ⟨fun text => ⟨?_, ?_⟩, fun text c read => (ofKey?_eq_ok_iff.mp read).2, fun text e refused => ?_,
    fun c => ?_, fun first second one two same => ?_⟩
  · rintro ⟨c, read⟩
    obtain ⟨separable, rfl⟩ := ofKey?_eq_ok_iff.mp read
    exact ⟨c.category, c.pattern, c.origin, rfl, separable.category, separable.pattern, separable.origin⟩
  · rintro ⟨category, pattern, origin, rfl, named, matched, observed⟩
    exact ⟨⟨category, pattern, origin⟩, ofKey?_eq_ok_iff.mpr ⟨⟨named, matched, observed⟩, rfl⟩⟩
  · exact congrArg KeyError.mk (text_of_ofKey?_error refused)
  · rw [ofKey?_eq_ok_iff, and_iff_left rfl]
  · have read := ofKey?_key one
    rw [same, ofKey?_key two] at read
    exact (Except.ok.inj read).symm

/-- A candidate whose origin has a colon of its own: its key is read as the candidate, and no other separable
one has it. -/
theorem keys_separate_port :
    let c : Candidate := ⟨"games", "*.steam.com", "cdn.steam.com:443"⟩
    c.Separable ∧ ofKey? "games:*.steam.com:cdn.steam.com:443" = .ok c ∧
      c.key = "games:*.steam.com:cdn.steam.com:443" ∧
      (ofKey? "games::a.com" = .error ⟨"games::a.com"⟩) ∧
      ∀ other : Candidate, other.Separable → other.key = "games:*.steam.com:cdn.steam.com:443" →
        other = c := by
  intro c
  have separable : c.Separable := ⟨by decide +kernel, by decide +kernel, by decide +kernel⟩
  have key : c.key = "games:*.steam.com:cdn.steam.com:443" := by decide +kernel
  obtain ⟨-, -, -, own, unique⟩ := keys_separate
  exact ⟨separable, key ▸ (own c).mpr separable, key, rfl, fun other separable' same =>
    unique other c separable' separable (same.trans key.symm)⟩

end CategoryFilter.Candidate
