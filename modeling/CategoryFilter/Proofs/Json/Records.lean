/-
**Reading a record that was written, and that was edited since.**

A record is read from the members that it was written with (`record?_of_names`, `optional_of_lookup`,
`required_of_lookup`), and so are a tagged value (`tagged?_cons`) and an array (`list?_map`).

A `Form` says what is known of an object: the names of its fields, the value that a field has if it is
absent, and the edits of a field's value. An object is edited by another order of its members, by a member that
the form does not know, by leaving out a field with its value for absence, and by an edit inside a field.

* `record_edit`: an edit of a record `Follows` the form, field by field.
* `tagged_edit`: an edit of a tagged value leaves its tag and is an edit of the value without it.
* `Keeps`: a reader gives the same for an edited value. It does for the readers of records (`Keeps.record`), of
  tagged values (`Keeps.tagged`) and of arrays (`Keeps.items`) if it does inside them.
* `Lossless`: so a value is read from the text that it is written with and from each edited object.
-/

import CategoryFilter.Proofs.Json.RoundTrip
import CategoryFilter.Proofs.Lookup
import CategoryFilter.Json.Fields
import Mathlib.Logic.Relation

namespace CategoryFilter.Json

variable {α β : Type} {name tag : String} {value other j k : Json} {a absent : α}
  {members edited : List (String × Json)} {fields known later : Fields} {read : Json → Option α}

/-! ### Written values -/

theorem bind_of_some {first : Option α} {next : α → Option β} {b : β} (here : first = some a)
    (there : next a = some b) : (first >>= next) = some b :=
  Option.bind_eq_some_iff.mpr ⟨a, here, there⟩

theorem list?_map {write : α → Json} (back : ∀ a, read (write a) = some a) (as : List α) :
    list? read (.array (as.map write)) = some as := by
  show (as.map write).mapM read = some as
  induction as with
  | nil => rfl
  | cons a as ih => simp [back, ih]

theorem list?_texts (ss : List String) : list? text? (texts ss) = some ss :=
  @list?_map _ text? Json.text (fun _ => rfl) ss

theorem optional?_optionalText (s : Option String) : optional? text? (.optionalText s) = some s := by
  cases s <;> rfl

/-- A record is read from its own members. -/
theorem record?_of_names {names : List String} (same : members.map Prod.fst = names)
    (distinct : names.Nodup) : record? names (.object members) = some members := by
  subst same
  have all : members.filter (fun m => (members.map Prod.fst).contains m.1) = members :=
    List.filter_eq_self.mpr fun m listed => List.contains_iff_mem.mpr (List.mem_map_of_mem listed)
  unfold record?
  dsimp only
  rw [all, if_pos distinct]

theorem optional_of_lookup (found : fields.lookup name = some j) (reads : read j = some a) :
    fields.optional name absent read = some a := by
  unfold Fields.optional
  rw [found]
  exact reads

theorem required_of_lookup (found : fields.lookup name = some j) (reads : read j = some a) :
    fields.required name read = some a := by
  unfold Fields.required
  rw [found]
  exact reads

theorem tagged?_object :
    tagged? tag (.object members) = some (name, j) ↔
      (Json.object members).isLegible = true ∧
        members.filter (fun m => m.1 = tag) = [(tag, .text name)] ∧
        j = .object (members.filter fun m => m.1 ≠ tag) := by
  have others : (not ∘ fun m : String × Json => decide (m.1 = tag)) = fun m => decide (m.1 ≠ tag) := by
    funext m
    simp
  unfold tagged?
  dsimp only
  rw [List.partition_eq_filter_filter, others]
  by_cases legible : (object members).isLegible = true
  · rw [legible]
    simp only [Bool.not_true, Bool.false_eq_true, if_false, true_and]
    split
    · next fst found rest split =>
      obtain ⟨tags, rfl⟩ := Prod.mk.inj split
      have single : fst = tag := by
        have inside : (fst, text found) ∈ members.filter fun m => m.1 = tag :=
          tags ▸ List.mem_singleton_self _
        simpa using (List.mem_filter.mp inside).2
      subst single
      rw [tags]
      simp [eq_comm]
    · next others =>
      refine iff_of_false (Option.some_ne_none _).symm ?_
      rintro ⟨single, -⟩
      exact others _ _ _ (by rw [single])
  · simp [legible]

/-- A tagged value is read from its tag and its own members. -/
theorem tagged?_cons (legible : membersLegible members = true) (others : ∀ m ∈ members, m.1 ≠ tag) :
    tagged? tag (.object ((tag, .text name) :: members)) = some (name, .object members) := by
  have tags : members.filter (fun m => m.1 = tag) = [] :=
    List.filter_eq_nil_iff.mpr fun m listed => by simpa using others m listed
  have rest : members.filter (fun m => m.1 ≠ tag) = members :=
    List.filter_eq_self.mpr fun m listed => decide_eq_true (others m listed)
  refine tagged?_object.mpr ⟨by simpa [isLegible, membersLegible] using legible, ?_, ?_⟩
  · rw [List.filter_cons_of_pos (by simp), tags]
  · rw [List.filter_cons_of_neg (by simp), rest]

theorem isLegible_texts (ss : List String) : (texts ss).isLegible = true := by
  unfold texts isLegible
  induction ss with
  | nil => rfl
  | cons s ss ih => simpa [allLegible, isLegible] using ih

theorem itemsWritable_map {write : α → Json} {depth : Nat} (writable : ∀ a, (write a).Writable depth)
    (as : List α) : ItemsWritable depth (as.map write) := by
  induction as with
  | nil => trivial
  | cons a as ih => exact ⟨writable a, ih⟩

theorem writable_texts {depth : Nat} (shallow : depth < maxDepth) (ss : List String) :
    (texts ss).Writable depth :=
  ⟨shallow, @itemsWritable_map _ Json.text _ (fun _ => trivial) ss⟩

theorem writable_optionalText (depth : Nat) (s : Option String) : (optionalText s).Writable depth := by
  cases s <;> trivial

/-! ### Edits -/

/-- What may be done to a field: it may be absent in place of a value, and its value may be edited. -/
structure Field where
  absent : Option Json
  edit : Json → Json → Prop

/-- No edit of a value. -/
def NoEdit (_ _ : Json) : Prop :=
  False

/-- A field that has to be there as it is. -/
def Field.required : Field :=
  ⟨none, NoEdit⟩

/-- A field that may be absent in place of a value. -/
def Field.optional (absent : Json) : Field :=
  ⟨some absent, NoEdit⟩

/-- The fields that are known by their names. -/
abbrev Form := List (String × Field)

variable {form : Form} {field : Field}

/-- One edit of an object. Members in front of a field are no matter, since they may change places. -/
inductive RecordEdit (form : Form) : Json → Json → Prop
  | reordered {members edited : List (String × Json)} (order : members.Perm edited) :
      RecordEdit form (.object members) (.object edited)
  | added {name : String} (unknown : form.lookup name = none) (value : Json)
      (members : List (String × Json)) :
      RecordEdit form (.object members) (.object ((name, value) :: members))
  | dropped {name : String} {field : Field} {value : Json} (known : form.lookup name = some field)
      (absent : field.absent = some value) (members : List (String × Json)) :
      RecordEdit form (.object ((name, value) :: members)) (.object members)
  | inside {name : String} {field : Field} {value other : Json} (known : form.lookup name = some field)
      (edit : field.edit value other) (members : List (String × Json)) :
      RecordEdit form (.object ((name, value) :: members)) (.object ((name, other) :: members))

/-- One edit of an object with a tag: the tag stays, and says what else is known. No part of the object may
become illegible, since all of it is looked at. -/
inductive TaggedEdit (tag : String) (kinds : String → Form) : Json → Json → Prop
  | edit {name : String} {members edited : List (String × Json)} (tagged : (tag, .text name) ∈ members)
      (step : RecordEdit ((tag, .required) :: kinds name) (.object members) (.object edited))
      (legible : (Json.object edited).isLegible = true) :
      TaggedEdit tag kinds (.object members) (.object edited)

/-- An edit of one item of an array. -/
inductive ItemEdit (edit : Json → Json → Prop) : Json → Json → Prop
  | item {value other : Json} (front back : List Json) (step : edit value other) :
      ItemEdit edit (.array (front ++ value :: back)) (.array (front ++ other :: back))

/-- Edits of a field's value are edits of the object. -/
theorem edits_inside (listed : form.lookup name = some field) (members : List (String × Json))
    (edits : Relation.ReflTransGen field.edit value other) :
    Relation.ReflTransGen (RecordEdit form) (.object ((name, value) :: members))
      (.object ((name, other) :: members)) := by
  induction edits with
  | refl => exact .refl
  | tail _ step ih => exact ih.tail (.inside listed step members)

/-- Edits of an item are edits of the array. -/
theorem edits_item {edit : Json → Json → Prop} (front back : List Json)
    (edits : Relation.ReflTransGen edit value other) :
    Relation.ReflTransGen (ItemEdit edit) (.array (front ++ value :: back))
      (.array (front ++ other :: back)) := by
  induction edits with
  | refl => exact .refl
  | tail _ step ih => exact ih.tail (.item front back step)

/-! ### Readers -/

/-- A reader does not notice an edit. -/
def Keeps {α : Type} (edit : Json → Json → Prop) (read : Json → Option α) : Prop :=
  ∀ ⦃j k a⦄, edit j k → read j = some a → read k = some a

/-- Nor many. -/
theorem Keeps.many {edit : Json → Json → Prop} (keeps : Keeps edit read)
    (edits : Relation.ReflTransGen edit j k) (found : read j = some a) : read k = some a := by
  induction edits with
  | refl => exact found
  | tail _ edit ih => exact keeps edit ih

theorem Keeps.nothing (read : Json → Option α) : Keeps NoEdit read :=
  fun _ _ _ impossible => impossible.elim

theorem Keeps.items {edit : Json → Json → Prop} (keeps : Keeps edit read) :
    Keeps (ItemEdit edit) (list? read) := by
  rintro _ _ items ⟨front, back, step⟩ found
  unfold list? at found ⊢
  simp only [List.mapM_append, List.mapM_cons, Option.bind_eq_bind, Option.bind_eq_some_iff] at found ⊢
  obtain ⟨first, before, _, ⟨a, here, after⟩, all⟩ := found
  exact ⟨first, before, _, ⟨a, keeps step here, after⟩, all⟩

/-! ### Records -/

/-- A field before and after an edit. -/
inductive FieldEdit (field : Field) : Option Json → Option Json → Prop
  | kept (found : Option Json) : FieldEdit field found found
  | dropped {value : Json} (absent : field.absent = some value) : FieldEdit field (some value) none
  | edited {value other : Json} (edit : field.edit value other) : FieldEdit field (some value) (some other)

/-- Each field of some fields is edited in others. -/
def Follows (form : Form) (known later : Fields) : Prop :=
  ∀ ⦃name field⦄, form.lookup name = some field →
    FieldEdit field (known.lookup name) (later.lookup name)

theorem record?_object :
    record? (form.map Prod.fst) (.object members) = some known ↔
      members.filter (fun m => (form.lookup m.1).isSome) = known ∧ (known.map Prod.fst).Nodup := by
  have names : (fun m : String × Json => (form.map Prod.fst).contains m.1) =
      fun m => (form.lookup m.1).isSome := by
    funext m
    rw [Bool.eq_iff_iff, List.contains_iff_mem, Option.isSome_iff_ne_none, Ne, lookup_eq_none_iff, not_not]
  unfold record?
  dsimp only
  rw [names]
  split
  · next distinct =>
    rw [Option.some.injEq]
    exact ⟨fun same => ⟨same, same ▸ distinct⟩, And.left⟩
  · next repeated =>
    refine iff_of_false (Option.some_ne_none _).symm ?_
    rintro ⟨rfl, distinct⟩
    exact repeated distinct

/-- **An edit of a record is an edit of its fields.** -/
theorem record_edit (edit : RecordEdit form j k) (found : record? (form.map Prod.fst) j = some known) :
    ∃ later, record? (form.map Prod.fst) k = some later ∧ Follows form known later := by
  cases edit with
  | reordered order =>
    obtain ⟨rfl, distinct⟩ := record?_object.mp found
    have order := order.filter fun m => (form.lookup m.1).isSome
    have distinct' := (order.map Prod.fst).nodup_iff.mp distinct
    refine ⟨_, record?_object.mpr ⟨rfl, distinct'⟩, fun name field _ => ?_⟩
    rw [lookup_eq_of_perm distinct order]
    exact .kept _
  | added unknown value members =>
    refine ⟨known, ?_, fun name field _ => .kept _⟩
    rw [record?_object, List.filter_cons_of_neg (by simp [unknown])]
    exact record?_object.mp found
  | @dropped name field value listed absent members =>
    rw [record?_object, List.filter_cons_of_pos (by simp [listed])] at found
    obtain ⟨rfl, distinct⟩ := found
    obtain ⟨single, distinct⟩ := List.nodup_cons.mp distinct
    refine ⟨_, record?_object.mpr ⟨rfl, distinct⟩, fun other field' known => ?_⟩
    by_cases same : other = name
    · subst same
      obtain rfl := Option.some.inj (known.symm.trans listed)
      -- The reader refuses a field that occurs twice, so no other one takes the place of this one.
      rw [List.lookup_cons_self, lookup_eq_none_iff.mpr single]
      exact .dropped absent
    · rw [lookup_cons_other same]
      exact .kept _
  | @inside name field value other listed edit members =>
    rw [record?_object, List.filter_cons_of_pos (by simp [listed])] at found
    obtain ⟨rfl, distinct⟩ := found
    refine ⟨(name, other) :: _, record?_object.mpr ⟨?_, distinct⟩, fun asked field' known => ?_⟩
    · rw [List.filter_cons_of_pos (by simp [listed])]
    by_cases same : asked = name
    · subst same
      obtain rfl := Option.some.inj (known.symm.trans listed)
      rw [List.lookup_cons_self, List.lookup_cons_self]
      exact .edited edit
    · rw [lookup_cons_other same, lookup_cons_other same]
      exact .kept _

/-! ### Tagged values -/

/-- The name of a member that is known beside a tag, and may be edited or left out, is not the tag. -/
theorem lookup_beside_tag (listed : ((tag, .required) :: form : Form).lookup name = some field)
    (loose : field ≠ .required) : name ≠ tag ∧ form.lookup name = some field := by
  by_cases same : name = tag
  · rw [same, List.lookup_cons_self] at listed
    exact absurd (Option.some.inj listed).symm loose
  · exact ⟨same, (lookup_cons_other same).symm.trans listed⟩

/-- **An edit of a tagged value leaves its tag and is an edit of the rest.** -/
theorem tagged_edit {kinds : String → Form} (edit : TaggedEdit tag kinds j k)
    (found : tagged? tag j = some (name, other)) :
    ∃ later, tagged? tag k = some (name, later) ∧ RecordEdit (kinds name) other later := by
  obtain @⟨name', members, edited, tagged, step, legible⟩ := edit
  obtain ⟨-, single, rfl⟩ := tagged?_object.mp found
  obtain rfl : name' = name := by
    have inside : (tag, text name') ∈ members.filter fun m => m.1 = tag := by simp [tagged]
    rw [single] at inside
    simpa using inside
  cases step with
  | reordered order =>
    refine ⟨_, tagged?_object.mpr ⟨legible, ?_, rfl⟩, .reordered (order.filter _)⟩
    have tags := order.filter fun m => m.1 = tag
    rw [single] at tags
    exact (List.singleton_perm.mp tags).symm
  | @added name unknown value members =>
    have apart : name ≠ tag := by
      rintro rfl
      rw [List.lookup_cons_self] at unknown
      cases unknown
    rw [lookup_cons_other apart] at unknown
    refine ⟨_, tagged?_object.mpr ⟨legible, ?_, rfl⟩, ?_⟩
    · simpa [apart] using single
    · simpa [apart] using .added unknown value _
  | @dropped name field value listed absent members =>
    obtain ⟨apart, listed⟩ := lookup_beside_tag listed (by rintro rfl; cases absent)
    refine ⟨_, tagged?_object.mpr ⟨legible, ?_, rfl⟩, ?_⟩
    · simpa [apart] using single
    · simpa [apart] using .dropped listed absent _
  | @inside name field value other listed edit members =>
    obtain ⟨apart, listed⟩ := lookup_beside_tag listed (by rintro rfl; cases edit)
    refine ⟨_, tagged?_object.mpr ⟨legible, ?_, rfl⟩, ?_⟩
    · simpa [apart] using single
    · simpa [apart] using .inside listed edit _

/-! ### Readers of fields -/

/-- A reader of fields does not notice an edit. -/
def KeepsFields {α : Type} (form : Form) (read : Fields → Option α) : Prop :=
  ∀ ⦃known later a⦄, Follows form known later → read known = some a → read later = some a

theorem KeepsFields.pure (a : α) : KeepsFields form fun _ => some a :=
  fun _ _ _ _ found => found

theorem KeepsFields.bind {first : Fields → Option α} {next : α → Fields → Option β}
    (keeps : KeepsFields form first) (keeps' : ∀ a, KeepsFields form (next a)) :
    KeepsFields form fun fields => first fields >>= fun a => next a fields := by
  intro known later b follows found
  obtain ⟨a, here, there⟩ := Option.bind_eq_some_iff.mp found
  exact bind_of_some (keeps follows here) (keeps' a follows there)

theorem KeepsFields.required (listed : form.lookup name = some .required) :
    KeepsFields form fun fields => fields.required name read := by
  intro known later a follows found
  have edit := follows listed
  simp only [Fields.required] at found ⊢
  generalize known.lookup name = before, later.lookup name = after at edit found ⊢
  cases edit with
  | kept => exact found
  | dropped absent => cases absent
  | edited edit => exact edit.elim

/-- A field that may be absent in place of the value that is taken for its absence. -/
theorem KeepsFields.optional {absent : α} {encoded : Json} (listed : form.lookup name = some field)
    (stands : field.absent = some encoded) (standard : read encoded = some absent)
    (keeps : Keeps field.edit read) :
    KeepsFields form fun fields => fields.optional name absent read := by
  intro known later a follows found
  have edit := follows listed
  simp only [Fields.optional] at found ⊢
  generalize known.lookup name = before, later.lookup name = after at edit found ⊢
  cases edit with
  | kept => exact found
  | dropped absent =>
    obtain rfl := Option.some.inj (stands.symm.trans absent)
    exact standard.symm.trans found
  | edited edit => exact keeps edit found

theorem KeepsFields.plain {encoded : Json} (listed : form.lookup name = some (.optional encoded))
    (standard : read encoded = some absent) :
    KeepsFields form fun fields => fields.optional name absent read :=
  .optional listed rfl standard (.nothing _)

/-- **The reader of a record does not notice an edit that its fields do not notice.** -/
theorem Keeps.record {names : List String} {next : Fields → Option α} (same : form.map Prod.fst = names)
    (keeps : KeepsFields form next) : Keeps (RecordEdit form) fun j => record? names j >>= next := by
  intro j k a edit found
  obtain ⟨known, here, there⟩ := Option.bind_eq_some_iff.mp found
  obtain ⟨later, edited, follows⟩ := record_edit edit (same ▸ here)
  exact bind_of_some (same ▸ edited) (keeps follows there)

/-- **The reader of a tagged value does not notice an edit that the reader behind the tag does not notice.** -/
theorem Keeps.tagged {kinds : String → Form} {next : String × Json → Option α}
    (keeps : ∀ name, Keeps (RecordEdit (kinds name)) fun j => next (name, j)) :
    Keeps (TaggedEdit tag kinds) fun j => tagged? tag j >>= next := by
  intro j k a edit found
  obtain ⟨⟨name, other⟩, here, there⟩ := Option.bind_eq_some_iff.mp found
  obtain ⟨later, edited, step⟩ := tagged_edit edit here
  exact bind_of_some edited (keeps name step there)

/-! ### Lossless forms -/

/-- A value is read from the text that it is written with, and from its object after any edits. -/
def Lossless (edit : Json → Json → Prop) (write : α → Json) (read : Json → Option α) : Prop :=
  ∀ a, Json.read (write a).render = some (write a) ∧
    ∀ j, Relation.ReflTransGen edit (write a) j → read j = some a

theorem Lossless.intro {edit : Json → Json → Prop} {write : α → Json}
    (writable : ∀ a, (write a).Writable 0) (back : ∀ a, read (write a) = some a) (keeps : Keeps edit read) :
    Lossless edit write read :=
  fun a => ⟨read_render (writable a), fun _ edits => keeps.many edits (back a)⟩

end CategoryFilter.Json
