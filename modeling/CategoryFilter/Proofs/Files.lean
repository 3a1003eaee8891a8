/-
**Paths and what they lead to.**

* `Path.names_join`: a name without slashes continues a path by one step.
* `Tree.makeParents_of_find`: no directory is made above a path that leads somewhere.
* `Tree.find_put`: what is put where no directory is leaves each path leading where it led.
-/

import CategoryFilter.Files.Tree
import CategoryFilter.Proofs.Lookup

namespace CategoryFilter

/-! ### Names in a path -/

/-- A separator divides a text into the pieces before it and those after it. -/
theorem Text.pieces_append {p : Char → Bool} {c : Char} (separator : p c = true) (front back : List Char) :
    pieces p (front ++ c :: back) = pieces p front ++ pieces p back := by
  induction front with
  | nil => simp [pieces, separator]
  | cons d rest ih =>
    by_cases divides : p d = true
    · simp [pieces, divides, ih]
    · cases split : pieces p rest with
      | nil => simpa [split] using length_pieces p rest
      | cons piece more => simp [pieces, divides, ih, split]

theorem Text.pieces_of_forall {p : Char → Bool} {cs : List Char} (plain : ∀ c ∈ cs, p c = false) :
    pieces p cs = [cs] := by
  induction cs with
  | nil => rfl
  | cons c rest ih =>
    obtain ⟨first, others⟩ := List.forall_mem_cons.mp plain
    simp [pieces, first, ih others]

namespace Path

variable {path name : String}

/-- A name that may stand between slashes and leads somewhere else. -/
structure IsName (name : String) : Prop where
  plain : '/' ∉ name.toList
  some : name ≠ ""
  leads : name ≠ "."

@[simp] theorem names_empty : names "" = [] := by decide

/-- A slash divides the names in a path. -/
theorem names_slash (front back : String) : names (front ++ "/" ++ back) = names front ++ names back := by
  have split : (front ++ "/" ++ back).toList = front.toList ++ '/' :: back.toList := by simp
  unfold names rawNames
  rw [split, Text.pieces_append rfl, List.map_append, List.filter_append]

theorem names_of_isName (named : IsName name) : names name = [name] := by
  obtain ⟨plain, some, leads⟩ := named
  have whole : Text.pieces (· == '/') name.toList = [name.toList] :=
    Text.pieces_of_forall fun c listed => beq_eq_false_iff_ne.mpr fun (same : c = '/') =>
      plain (same ▸ listed)
  simp [names, rawNames, whole, some, leads]

theorem IsName.relative (named : IsName name) : isAbsolute name = false := by
  rw [isAbsolute, beq_eq_false_iff_ne]
  exact fun slash => named.plain (List.mem_of_mem_head? slash)

theorem isAbsolute_append {path : String} (some : path ≠ "") (rest : String) :
    isAbsolute (path ++ rest) = isAbsolute path := by
  have filled : path.toList ≠ [] := by simpa using some
  simp [isAbsolute, String.toList_append, List.head?_append_of_ne_nil _ filled]

/-- **A name continues a path by one step**, from the same start. -/
theorem names_join (named : IsName name) (path : String) :
    names (join path name) = names path ++ [name] ∧ isAbsolute (join path name) = isAbsolute path := by
  unfold join
  rw [if_neg (by simp [named.relative])]
  split
  · next ends =>
    rcases ends with empty | slash
    · obtain rfl := String.isEmpty_iff.mp empty
      rw [String.empty_append, names_of_isName named, named.relative]
      exact ⟨rfl, by decide⟩
    · -- The name goes behind the slash that is there; the empty name before it leads nowhere else.
      obtain ⟨front, letters⟩ := List.getLast?_eq_some_iff.mp slash
      have split : path = String.ofList front ++ "/" ++ "" := by
        rw [← String.toList_inj, letters]
        simp
      have some : path ≠ "" := by
        rintro rfl
        simp at slash
      refine ⟨?_, isAbsolute_append some name⟩
      rw [split, String.append_empty, names_slash, ← String.append_empty (s := _ ++ "/"), names_slash,
        names_empty, List.append_nil, names_of_isName named]
  · next inside =>
    obtain ⟨some, -⟩ := not_or.mp inside
    refine ⟨by rw [names_slash, names_of_isName named], ?_⟩
    rw [String.append_assoc]
    exact isAbsolute_append (by simpa using some) _

theorem not_mem_join {c : Char} (slash : c ≠ '/') (left : c ∉ path.toList) (right : c ∉ name.toList) :
    c ∉ (join path name).toList := by
  unfold join
  split
  · exact right
  split <;> simp [left, right, slash]

end Path

/-! ### Following a path -/

namespace Tree

variable {t : Tree} {path : String} {place other : Place} {node : Node}

theorem node?_put (t : Tree) (place other : Place) (node : Node) :
    (t.put place node).node? other =
      if other.isEmpty then some .directory
      else if other = place then some node else t.node? other := by
  unfold node?
  by_cases root : other.isEmpty = true
  · rw [if_pos root, if_pos root]
  · rw [if_neg root, if_neg root]
    by_cases same : other = place
    · subst same
      rw [if_pos rfl]
      exact List.lookup_cons_self
    · rw [if_neg same, if_neg root]
      show ((place, node) :: _).lookup other = _
      rw [lookup_cons_other same, lookup_filter (· != place), if_pos (bne_iff_ne.mpr same)]

theorem isDirectory_iff : t.isDirectory place = true ↔ t.node? place = some .directory := by
  unfold isDirectory
  match t.node? place with
  | none | some (.file _) | some (.database _) => simp [Node.isDirectory]
  | some .directory => simp [Node.isDirectory]

@[simp] theorem put_put (t : Tree) (place : Place) (first second : Node) :
    (t.put place first).put place second = t.put place second := by
  simp [put, List.filter_filter]

theorem follow_concat (t : Tree) (start : Place) (names : List String) (last : String) :
    t.follow start (names ++ [last]) = t.follow start names >>= (t.step · last) := by
  simp [follow]

/-- **A name continues a path to a directory by one place**, unless it leads up or no place can have it. -/
theorem find_join {name : String} (named : Path.IsName name) (down : name ≠ "..")
    (short : name.utf8ByteSize ≤ longestName) (zeros : Char.ofNat 0 ∉ name.toList)
    (found : t.find path = .ok place) (inside : t.isDirectory place = true) :
    t.find (Path.join path name) = .ok (name :: place) := by
  obtain ⟨names, starts⟩ := Path.names_join named path
  unfold find at found ⊢
  split at found
  · cases found
  · next plain =>
    rw [List.contains_iff_mem] at plain
    rw [if_neg (by simpa using Path.not_mem_join (by decide) plain zeros), names, start, starts, follow_concat]
    unfold start at found
    rw [found]
    show t.step place name = _
    unfold Tree.step
    rw [isDirectory_iff.mp inside]
    simp [named.leads, down, Nat.not_lt.mpr short]

/-- A step starts in a directory. -/
theorem isDirectory_of_step {name : String} (led : t.step place name = .ok other) :
    t.isDirectory place = true := by
  unfold Tree.step at led
  split at led
  · cases led
  · next directory => exact isDirectory_iff.mpr directory
  · cases led

/-- What is found at the end of some names is in the directory that all but the last lead to. -/
theorem leadsInside_of_follow {start : Place} {names : List String} {last : String}
    (found : t.follow start (names ++ [last]) = .ok place) : t.leadsInside start names = true := by
  rw [follow_concat] at found
  unfold leadsInside
  cases led : t.follow start names with
  | error cause => rw [led] at found; cases found
  | ok above =>
    rw [led] at found
    exact isDirectory_of_step found

theorem ensureDirectory_of_inside {start : Place} {names : List String}
    (inside : t.leadsInside start names = true) : t.ensureDirectory start names = .ok t := by
  have refused : t.makeDirectory start names = .error .exists := by
    unfold leadsInside at inside
    unfold makeDirectory
    cases led : t.follow start names with
    | error cause => rw [led] at inside; cases inside
    | ok above =>
      rw [led] at inside
      simp [bind, Except.bind, isDirectory_iff.mp inside]
      rfl
  unfold ensureDirectory
  rw [refused]
  exact if_pos inside

/-- **No directory is made above a path that leads somewhere.** -/
theorem makeParents_of_find (found : t.find path = .ok place) : t.makeParents path = .ok t := by
  unfold find at found
  unfold makeParents
  split at found
  · cases found
  · next plain =>
    rw [if_neg plain]
    rcases List.eq_nil_or_concat (Path.names path) with none | ⟨names, last, split⟩
    · rw [none]
      rfl
    · rw [split, List.concat_eq_append] at found
      rw [split, List.concat_eq_append, List.reverse_concat, List.tail_cons]
      cases above : names.reverse with
      | nil => rfl
      | cons name rest =>
        have inside : t.ensureDirectory (t.start path) (name :: rest).reverse = .ok t := by
          rw [← above, List.reverse_reverse]
          exact ensureDirectory_of_inside (leadsInside_of_follow found)
        unfold ensureAll
        rw [inside]

/-- What is put where no directory is stops no step. -/
theorem step_put {above next : Place} {name : String} (plain : t.isDirectory place = false) (node : Node)
    (led : t.step above name = .ok next) : (t.put place node).step above name = .ok next := by
  have apart : above ≠ place := by
    rintro rfl
    rw [isDirectory_of_step led] at plain
    cases plain
  have same : (t.put place node).node? above = t.node? above := by
    rw [node?_put, if_neg apart, node?]
    split <;> rfl
  unfold Tree.step at led ⊢
  rwa [same]

theorem follow_put {names : List String} {start : Place} (plain : t.isDirectory place = false) (node : Node)
    (led : t.follow start names = .ok other) : (t.put place node).follow start names = .ok other := by
  unfold Tree.follow at led ⊢
  induction names generalizing start with
  | nil => exact led
  | cons name names ih =>
    rw [List.foldlM_cons] at led ⊢
    cases first : t.step start name with
    | error cause => rw [first] at led; cases led
    | ok next =>
      rw [first] at led
      rw [step_put plain node first]
      exact ih led

/-- **A path that leads somewhere leads there still, whatever is put where no directory is.** -/
theorem find_put (plain : t.isDirectory place = false) (node : Node) (found : t.find path = .ok other) :
    (t.put place node).find path = .ok other := by
  unfold find at found ⊢
  split at found
  · cases found
  · next zeros =>
    rw [if_neg zeros]
    exact follow_put plain node found

end Tree

end CategoryFilter
