/-
**Which categories have a list file.**

A configuration is checked for ids that cannot name a list, and so is an id before its list is read. Both checks
refuse an empty id and one with a slash or a backslash. Only the second refuses a dot at the beginning.

* `listFileName_eq`: an id of a checked configuration names a list unless it begins with a dot.
* `names_of_listPath`: the list is in the directory of the lists, under a name of its own.
* `byListFile_ok_iff`: some directory lets a category confirm, if its id makes a name that a file may have.
* `listed_iff_undotted`: all of it, for a checked configuration.
* `validate_dotted`: a category that is accepted and has no list.
-/

import CategoryFilter.Config.Basic
import CategoryFilter.Confirm.Source
import CategoryFilter.Files
import CategoryFilter.Proofs.Confirm.Listing
import CategoryFilter.Proofs.Files

namespace CategoryFilter

variable {id other directory path : String} {keys : List String}

/-- An id that begins with a dot. -/
def Dotted (id : String) : Prop :=
  id.toList.head? = some '.'

instance (id : String) : Decidable (Dotted id) :=
  inferInstanceAs (Decidable (id.toList.head? = some '.'))

namespace Config

theorem isValidId_iff :
    isValidId id = true ↔ id ≠ "" ∧ '/' ∉ id.toList ∧ '\\' ∉ id.toList ∧ ':' ∉ id.toList := by
  simp [isValidId]
  grind

/-- A checked configuration has no other ids. -/
theorem isValidId_of_validate {config : Config} (checked : config.validate = .ok ()) {d : Definition}
    (configured : d ∈ config.categories) : isValidId d.id = true := by
  unfold validate at checked
  split at checked
  · cases checked
  split at checked
  · cases checked
  split at checked
  · cases checked
  cases refused : config.categories.find? fun d => !isValidId d.id with
  | some d => rw [refused] at checked; cases checked
  | none => simpa using List.find?_eq_none.mp refused d configured

end Config

namespace Confirm

/-! ### The path of a list -/

/-- The failure of a category that has no list. -/
def unlisted (category : String) : Failure :=
  .config ("invalid category id for list lookup: " ++ Text.quoted category)

/-- **An id of a checked configuration names a list unless it begins with a dot.** -/
theorem listFileName_eq (valid : Config.isValidId id = true) :
    listFileName id = if Dotted id then .error (unlisted id) else .ok (id ++ ".lst") := by
  obtain ⟨some, slash, backslash, -⟩ := Config.isValidId_iff.mp valid
  have named : isListId id = true ↔ ¬Dotted id := by
    unfold isListId Dotted
    cases letters : id.toList with
    | nil => exact absurd (String.toList_eq_nil_iff.mp letters) some
    | cons c rest =>
      rw [letters] at slash backslash
      simp at slash backslash ⊢
      grind
  unfold listFileName
  by_cases dotted : Dotted id
  · rw [if_neg fun listed => named.mp listed dotted, if_pos dotted]
    rfl
  · rw [if_pos (named.mpr dotted), if_neg dotted]

theorem listPath_eq (valid : Config.isValidId id = true) (directory : String) :
    listPath directory id =
      if Dotted id then .error (unlisted id) else .ok (Path.join directory (id ++ ".lst")) := by
  unfold listPath
  rw [listFileName_eq valid]
  split <;> rfl

/-- The name of a list is one step of a path, and leads down. -/
theorem isName_list (valid : Config.isValidId id = true) :
    Path.IsName (id ++ ".lst") ∧ id ++ ".lst" ≠ ".." := by
  obtain ⟨-, slash, -⟩ := Config.isValidId_iff.mp valid
  have longer {short : String} (few : short.length < 4) : id ++ ".lst" ≠ short := by
    rintro rfl
    rw [String.length_append] at few
    exact absurd few (Nat.not_lt.mpr (Nat.le_add_left 4 _))
  exact ⟨⟨by simp [slash], longer (by decide), longer (by decide)⟩, longer (by decide)⟩

/-- **The list of a category is in the directory of the lists, under a name of its own.** -/
theorem names_of_listPath (valid : Config.isValidId id = true) (listed : listPath directory id = .ok path) :
    Path.names path = Path.names directory ++ [id ++ ".lst"] ∧
      Path.isAbsolute path = Path.isAbsolute directory := by
  rw [listPath_eq valid] at listed
  split at listed
  · cases listed
  · cases listed
    exact Path.names_join (isName_list valid).1 directory

theorem listPath_separate (valid : Config.isValidId id = true) (valid' : Config.isValidId other = true)
    (listed : listPath directory id = .ok path) (same : listPath directory other = .ok path) :
    other = id := by
  have names := (names_of_listPath valid' same).1.symm.trans (names_of_listPath valid listed).1
  simpa using names

/-! ### Reading a list -/

theorem byListFile_dotted (valid : Config.isValidId id = true) (dotted : Dotted id) (some : keys ≠ [])
    (listFile : String → Except FileError ByteArray) :
    byListFile listFile id keys = .error (unlisted id) := by
  unfold byListFile loadList
  rw [if_neg (by simpa using some), listFileName_eq valid, if_pos dotted]
  rfl

theorem checkFileName_iff {name : String} :
    checkFileName name = .ok () ↔ Char.ofNat 0 ∉ name.toList ∧ name.utf8ByteSize ≤ 255 := by
  unfold checkFileName
  split
  · simp_all
  · split <;> simp_all

/-- What the reader of a list answers comes from a file. -/
theorem checkFileName_of_byListFile {files : Directory} {name : String} {confirmed : List String}
    (some : keys ≠ []) (named : listFileName id = .ok name)
    (answered : byListFile files.read id keys = .ok confirmed) : checkFileName name = .ok () := by
  unfold byListFile loadList at answered
  rw [if_neg (by simpa using some), named] at answered
  cases checked : checkFileName name with
  | ok => rfl
  | error cause =>
    have unread : files.read name = .error cause := by
      unfold Directory.read
      rw [checked]
      rfl
    simp only [bind, Except.bind, unread] at answered
    cases answered

/-- **Some directory lets a category confirm, if its id makes a name that a file may have.** -/
theorem byListFile_ok_iff (valid : Config.isValidId id = true) (some : keys ≠ []) :
    (∃ (files : Directory) (confirmed : List String), byListFile files.read id keys = .ok confirmed) ↔
      ¬Dotted id ∧ Char.ofNat 0 ∉ id.toList ∧ id.utf8ByteSize ≤ 251 := by
  have usable : checkFileName (id ++ ".lst") = .ok () ↔
      Char.ofNat 0 ∉ id.toList ∧ id.utf8ByteSize ≤ 251 := by
    have extension : ".lst".utf8ByteSize = 4 ∧ Char.ofNat 0 ∉ ".lst".toList := by decide +kernel
    rw [checkFileName_iff, String.utf8ByteSize_append, String.toList_append, List.mem_append]
    grind
  by_cases dotted : Dotted id
  · simp [dotted, byListFile_dotted valid dotted some]
  have named : listFileName id = .ok (id ++ ".lst") := by rw [listFileName_eq valid, if_neg dotted]
  simp only [dotted, not_false_eq_true, true_and]
  rw [← usable]
  constructor
  · rintro ⟨files, confirmed, answered⟩
    exact checkFileName_of_byListFile some named answered
  · intro fits
    have held : HoldsLines (Directory.read [(id ++ ".lst", "".toUTF8)]) id [] := by
      refine ⟨id ++ ".lst", "", named, ?_, .none⟩
      unfold Directory.read
      rw [fits]
      simp [bind, Except.bind]
      rfl
    exact ⟨_, _, byListFile_eq held keys⟩

/-- **A category of a checked configuration has a list unless its id begins with a dot.** Its path is then the
directory and one name, its own, which leads from any place of the directory to a file there. A category whose
id begins with a dot fails each confirmation. -/
theorem listed_iff_undotted {config : Config} (checked : config.validate = .ok ()) :
    ∀ d ∈ config.categories,
      (Dotted d.id → ∀ directory, listPath directory d.id = .error (unlisted d.id) ∧
        ∀ listFile keys, keys ≠ [] → byListFile listFile d.id keys = .error (unlisted d.id)) ∧
      (¬Dotted d.id → ∀ directory, ∃ path, listPath directory d.id = .ok path ∧
        Path.names path = Path.names directory ++ [d.id ++ ".lst"] ∧
        Path.isAbsolute path = Path.isAbsolute directory ∧
        (∀ e ∈ config.categories, listPath directory e.id = .ok path → e.id = d.id) ∧
        ∀ (t : Tree) (place : Place), t.find directory = .ok place → t.isDirectory place = true →
          checkFileName (d.id ++ ".lst") = .ok () → t.find path = .ok ((d.id ++ ".lst") :: place)) ∧
      ∀ keys, keys ≠ [] →
        ((∃ (files : Directory) (confirmed : List String),
            byListFile files.read d.id keys = .ok confirmed) ↔
          ¬Dotted d.id ∧ Char.ofNat 0 ∉ d.id.toList ∧ d.id.utf8ByteSize ≤ 251) := by
  intro d configured
  have valid := Config.isValidId_of_validate checked configured
  refine ⟨fun dotted directory => ⟨?_, fun listFile keys some => ?_⟩, fun dotted directory => ?_,
    fun keys some => byListFile_ok_iff valid some⟩
  · rw [listPath_eq valid, if_pos dotted]
  · exact byListFile_dotted valid dotted some listFile
  · have listed : listPath directory d.id = .ok (Path.join directory (d.id ++ ".lst")) := by
      rw [listPath_eq valid, if_neg dotted]
    obtain ⟨names, starts⟩ := names_of_listPath valid listed
    refine ⟨_, listed, names, starts, fun e other same => ?_, fun t place found inside usable => ?_⟩
    · exact listPath_separate valid (Config.isValidId_of_validate checked other) listed same
    · obtain ⟨named, down⟩ := isName_list valid
      obtain ⟨zeros, short⟩ := checkFileName_iff.mp usable
      exact Tree.find_join named down short zeros found inside

/-- A configuration with two categories that are confirmed by list files. -/
def dottedConfig : Config :=
  (Config.standard.withCategory { Definition.new ".games" with strategy := .file }).withCategory
    { Definition.new "av" with strategy := .file }

/-- One of the two has a list of its own, and the other one never answers. -/
theorem listed_iff_undotted_two :
    dottedConfig.validate = .ok () ∧
      listPath "/lists" "av" = .ok "/lists/av.lst" ∧
      Path.names "/lists/av.lst" = Path.names "/lists" ++ ["av.lst"] ∧
      (∀ e ∈ dottedConfig.categories, listPath "/lists" e.id = .ok "/lists/av.lst" → e.id = "av") ∧
      listPath "/lists" ".games" = .error (unlisted ".games") ∧
      byListFile (Directory.read [(".games.lst", "a.com".toUTF8)]) ".games" ["a.com"] =
        .error (unlisted ".games") := by
  have checked : dottedConfig.validate = .ok () := by decide +kernel
  obtain ⟨dotted, -⟩ := listed_iff_undotted checked _ (.head _)
  obtain ⟨refused, fails⟩ := dotted (by decide +kernel) "/lists"
  obtain ⟨-, undotted, -⟩ := listed_iff_undotted checked _ (.tail _ (.head _))
  obtain ⟨path, found, names, -, own, -⟩ := undotted (by decide +kernel) "/lists"
  have joined : listPath "/lists" "av" = .ok "/lists/av.lst" := by decide +kernel
  obtain rfl : path = "/lists/av.lst" := Except.ok.inj (found.symm.trans joined)
  exact ⟨checked, joined, names, own, refused, fails _ _ (List.cons_ne_nil _ _)⟩

/-- **A category that is accepted and has no list.** With an answer for each file, each of its confirmations
fails. -/
theorem validate_dotted :
    dottedConfig.validate = .ok () ∧
      (∃ d ∈ dottedConfig.categories, d.id = ".games" ∧ Source.select d.strategy d.style = .file) ∧
      (∀ directory, listPath directory ".games" =
        .error (.config "invalid category id for list lookup: \".games\"")) ∧
      ∀ listFile key keys, byListFile listFile ".games" (key :: keys) =
        .error (.config "invalid category id for list lookup: \".games\"") := by
  have refused : listFileName ".games" =
      .error (.config "invalid category id for list lookup: \".games\"") := by decide +kernel
  refine ⟨by decide +kernel, ⟨_, .head _, rfl, rfl⟩, fun directory => ?_, fun listFile key keys => ?_⟩
  · unfold listPath
    rw [refused]
    rfl
  · unfold byListFile loadList
    rw [refused]
    rfl

end Confirm

end CategoryFilter
