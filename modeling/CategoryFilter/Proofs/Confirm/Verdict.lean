/-
**What a source says about one key.**

The sources have fixed `Answers`: for each hash set the digests that it holds, for each key that is looked
up an answer, for each list file a content. They say something about every key by itself:

* `answered_of_confirm`: what the confirmation of some keys is made of, source by source.
* `Answered.mem_iff`: a key is confirmed, or fails, by the verdict that the answers give on it alone,
  whichever other keys are asked about with it.
* `verdict_confirm`: so that is its verdict.
-/

import CategoryFilter.Confirm.Basic
import CategoryFilter.Proofs.Confirm.Digests

namespace CategoryFilter

/-- What a source says about a key. -/
inductive Verdict where
  | confirmed
  | refuted
  | failed
deriving Repr, DecidableEq

/-- The verdict of a source that knows every key. -/
def Verdict.ofBool (found : Bool) : Verdict :=
  if found then .confirmed else .refuted

theorem Verdict.ofBool_eq_confirmed {found : Bool} : ofBool found = .confirmed ↔ found = true := by
  cases found <;> decide

theorem Verdict.ofBool_ne_failed (found : Bool) : ofBool found ≠ .failed := by
  cases found <;> decide

/-- The verdict of a confirmation on one of its keys. -/
def Confirmation.verdict (c : Confirmation) (key : String) : Verdict :=
  if c.failed.contains key then .failed else .ofBool (c.confirmed.contains key)

theorem Confirmation.verdict_eq {c : Confirmation} {key : String} {verdict : Verdict}
    (confirmed : key ∈ c.confirmed ↔ verdict = .confirmed)
    (failed : key ∈ c.failed ↔ verdict = .failed) : c.verdict key = verdict := by
  unfold Confirmation.verdict Verdict.ofBool
  simp only [List.contains_iff_mem, confirmed, failed]
  cases verdict <;> decide

namespace Confirm

variable {keys : List String} {key : String}

/-! ### The intel lookup -/

/-- The verdict of the intel lookup on a key. -/
def lookup (intel : (key domain : String) → Except Failure IntelResponse) (accepted : List String)
    (key : String) : Verdict :=
  match intel key (Domain.base key) with
  | .ok response => .ofBool (resolves response.results key accepted)
  | .error _ => .failed

/-- Looking a key up puts it where its verdict says. -/
theorem intelStep_eq (intel : (key domain : String) → Except Failure IntelResponse)
    (accepted : List String) (key : String) (rest : Confirmation) :
    intelStep intel accepted key rest =
      match lookup intel accepted key with
      | .confirmed => { rest with confirmed := key :: rest.confirmed }
      | .refuted => rest
      | .failed => { rest with failed := key :: rest.failed } := by
  unfold intelStep lookup
  rcases intel key (Domain.base key) with cause | response
  · rfl
  · cases found : resolves response.results key accepted with
    | true => simp [found, Verdict.ofBool]
    | false => simp [found, Verdict.ofBool]

theorem mem_byIntel (intel : (key domain : String) → Except Failure IntelResponse)
    (accepted : List String) (keys : List String) (key : String) :
    (key ∈ (keys.foldr (intelStep intel accepted) .empty).confirmed ↔
        key ∈ keys ∧ lookup intel accepted key = .confirmed) ∧
      (key ∈ (keys.foldr (intelStep intel accepted) .empty).failed ↔
        key ∈ keys ∧ lookup intel accepted key = .failed) := by
  induction keys with
  | nil => simp [Confirmation.empty]
  | cons first rest ih =>
    rw [List.foldr_cons, intelStep_eq]
    by_cases same : key = first
    · subst same
      cases verdict : lookup intel accepted key <;> simp [ih, verdict]
    · cases lookup intel accepted first <;> simp [ih, same]

/-! ### Answers -/

/-- Fixed answers of the sources. -/
structure Answers where
  /-- Whether a hash set holds a digest. -/
  holds : String → String → Bool
  intel : (category key domain : String) → Except Failure IntelResponse
  listFile : String → Except FileError ByteArray

/-- Services that give some answers. A request to a hash set is answered for the digests that it names. -/
structure Answers.Given (a : Answers) (services : Services) : Prop where
  membership : ∀ category request, ∃ present,
    services.membership category request = .ok ⟨some present⟩ ∧
    ∀ digest ∈ request.domains, present.contains digest = a.holds request.id digest
  intel : services.intel = a.intel
  listFile : services.listFile = a.listFile

/-- Services that give no other answers than some. A hash set or a list file may fail instead. -/
structure Answers.Allows (a : Answers) (services : Services) : Prop where
  membership : ∀ category request present, services.membership category request = .ok ⟨some present⟩ →
    ∀ digest ∈ request.domains, present.contains digest = a.holds request.id digest
  intel : services.intel = a.intel
  listFile : ∀ name bytes, services.listFile name = .ok bytes → a.listFile name = .ok bytes

/-- The verdict of a category's source on a key. -/
def Answers.verdict (a : Answers) (category : String) (source : Source) (style : Style)
    (key : String) : Verdict :=
  match source with
  | .trusted => .confirmed
  | .cloud => .ofBool (a.holds (style.hashSetId category) (Domain.digest key))
  | .intel => lookup (a.intel category) (accepted category style) key
  | .file =>
    match loadList a.listFile category with
    | .ok entries => .ofBool (isListed entries key)
    | .error _ => .failed

variable {a : Answers} {services : Services} {category : String} {source : Source} {style : Style}
  {confirmation : Confirmation}

theorem Answers.Given.allows (given : a.Given services) : a.Allows services where
  membership category request present reply := by
    obtain ⟨other, again, exact⟩ := given.membership category request
    rw [reply] at again
    cases again
    exact exact
  intel := given.intel
  listFile name bytes content := by rwa [← given.listFile]

/-- A list that was read is the one of the answers. -/
theorem Answers.Allows.loadList_eq (allowed : a.Allows services) {entries : List String}
    (loaded : loadList services.listFile category = .ok entries) :
    loadList a.listFile category = .ok entries := by
  unfold loadList at loaded ⊢
  cases named : listFileName category with
  | error cause =>
    rw [named] at loaded
    cases loaded
  | ok name =>
    rw [named] at loaded
    dsimp only [bind, Except.bind] at loaded ⊢
    cases content : services.listFile name with
    | error cause =>
      rw [content] at loaded
      cases loaded
    | ok bytes =>
      rw [content] at loaded
      rwa [allowed.listFile name bytes content]

/-! ### All sources -/

/-- What the confirmation of some keys is made of. -/
inductive Answered (services : Services) (category : String) (style : Style) (keys : List String) :
    Source → Confirmation → Prop
  | idle (source : Source) (none : keys = []) : Answered services category style keys source .empty
  | trusted : Answered services category style keys .trusted (.ofConfirmed keys)
  | file {entries : List String} (loaded : loadList services.listFile category = .ok entries) :
      Answered services category style keys .file (.ofConfirmed (keys.filter (isListed entries)))
  | cloud {present : List String}
      (reply : services.membership category
        (membershipRequest Domain.digest (style.hashSetId category) keys) = .ok ⟨some present⟩) :
      Answered services category style keys .cloud
        (.ofConfirmed (confirmedBy Domain.digest keys present))
  | intel : Answered services category style keys .intel
      (keys.foldr (intelStep (services.intel category) (accepted category style)) .empty)

/-- A confirmation is made of what its source said. -/
theorem answered_of_confirm
    (answered : (confirm services category source style keys).2 = .ok confirmation) :
    Answered services category style keys source confirmation := by
  by_cases none : keys = []
  · subst none
    cases answered
    exact .idle source rfl
  have keyed : keys.isEmpty = false := List.isEmpty_eq_false_iff.mpr none
  unfold confirm at answered
  rw [keyed, if_neg Bool.false_ne_true] at answered
  cases source with
  | trusted =>
    cases answered
    exact .trusted
  | intel =>
    cases answered
    exact .intel
  | cloud =>
    dsimp only at answered
    rw [byHashSet_asked none] at answered
    rcases reply : services.membership category
      (membershipRequest Domain.digest (style.hashSetId category) keys) with cause | ⟨_ | present⟩ <;>
      rw [reply] at answered <;> cases answered
    exact .cloud reply
  | file =>
    unfold byListFile at answered
    rw [keyed, if_neg Bool.false_ne_true] at answered
    rcases loaded : loadList services.listFile category with cause | entries <;>
      rw [loaded] at answered <;> cases answered
    exact .file loaded

/-- A source that knows every key confirms those that it has found. -/
theorem mem_ofConfirmed {confirmed : List String} {found : Bool}
    (exact : key ∈ confirmed ↔ key ∈ keys ∧ found = true) :
    (key ∈ (Confirmation.ofConfirmed confirmed).confirmed ↔
        key ∈ keys ∧ Verdict.ofBool found = .confirmed) ∧
      (key ∈ (Confirmation.ofConfirmed confirmed).failed ↔
        key ∈ keys ∧ Verdict.ofBool found = .failed) := by
  simp [Confirmation.ofConfirmed, exact, Verdict.ofBool_eq_confirmed, Verdict.ofBool_ne_failed]

/-- **A key is confirmed, or fails, by the verdict that the answers give on it alone.** -/
theorem Answered.mem_iff (answered : Answered services category style keys source confirmation)
    (allowed : a.Allows services) (key : String) :
    (key ∈ confirmation.confirmed ↔
        key ∈ keys ∧ a.verdict category source style key = .confirmed) ∧
      (key ∈ confirmation.failed ↔
        key ∈ keys ∧ a.verdict category source style key = .failed) := by
  cases answered with
  | idle source none => simp [none, Confirmation.empty]
  | trusted =>
    have all : key ∈ keys ↔ key ∈ keys ∧ true = true := by simp
    exact mem_ofConfirmed all
  | intel =>
    have looked := mem_byIntel (services.intel category) (accepted category style) keys key
    rw [allowed.intel] at looked ⊢
    exact looked
  | @cloud present reply =>
    refine mem_ofConfirmed (mem_confirmedBy.trans (and_congr_right fun asked => ?_))
    have named : Domain.digest key ∈
        (membershipRequest Domain.digest (style.hashSetId category) keys).domains :=
      mem_membershipRequest.mpr ⟨key, asked, rfl⟩
    rw [← List.contains_iff_mem, allowed.membership _ _ present reply _ named]
    rfl
  | file loaded =>
    unfold Answers.verdict
    rw [allowed.loadList_eq loaded]
    exact mem_ofConfirmed List.mem_filter

/-- **A key's verdict is that of the answers on it alone.** -/
theorem Answered.verdict_eq (answered : Answered services category style keys source confirmation)
    (allowed : a.Allows services) (asked : key ∈ keys) :
    confirmation.verdict key = a.verdict category source style key := by
  obtain ⟨confirmed, failed⟩ := answered.mem_iff allowed key
  exact Confirmation.verdict_eq (confirmed.trans (and_iff_right asked))
    (failed.trans (and_iff_right asked))

theorem verdict_confirm (given : a.Given services)
    (answered : (confirm services category source style keys).2 = .ok confirmation)
    (asked : key ∈ keys) :
    confirmation.verdict key = a.verdict category source style key :=
  (answered_of_confirm answered).verdict_eq given.allows asked

end Confirm

end CategoryFilter
