/-
**A key's verdict does not depend on its batch.**

Keys are confirmed many at a time: by one request to a hash set, one reading of a list file, or one lookup
each. Under fixed answers the verdict on each of them is that on it alone:

* `Answered.disjoint`, `Answered.intel_of_failed`: the keys of a confirmation are confirmed, failed or neither,
  and only the intel lookup fails on some of them.
* `confirm_intel`, `verdict_byIntel`: the intel lookup never fails as a whole, whatever it answers.
* `lookup_failing`: a lookup that fails on some keys makes a difference to these only.
* `batch_independence`: all of it.
-/

import CategoryFilter.Proofs.Confirm.Verdict

namespace CategoryFilter

/-- Services whose lookup fails on some keys. -/
def Services.failing (services : Services) (fails : String → Bool) (cause : Failure) : Services :=
  { services with
    intel := fun category key domain =>
      if fails key then .error cause else services.intel category key domain }

namespace Confirm

open Domain (base)

variable {a : Answers} {services : Services} {category : String} {source : Source} {style : Style}
  {keys : List String} {key : String} {confirmation : Confirmation}

/-! ### One confirmation -/

namespace Answered

/-- No key is both confirmed and failed. -/
theorem disjoint (answered : Answered services category style keys source confirmation)
    (allowed : a.Allows services) : confirmation.confirmed.Disjoint confirmation.failed := by
  intro key confirmed failed
  obtain ⟨confirmed_iff, failed_iff⟩ := answered.mem_iff allowed key
  have both := (confirmed_iff.mp confirmed).2.symm.trans (failed_iff.mp failed).2
  cases both

/-- **Only the intel lookup fails on single keys.** -/
theorem intel_of_failed (answered : Answered services category style keys source confirmation)
    (failed : confirmation.failed ≠ []) : source = .intel := by
  cases answered with
  | intel => rfl
  | idle | trusted | file | cloud => exact absurd rfl failed

end Answered

/-! ### The intel lookup -/

/-- **The intel lookup never fails as a whole.** -/
theorem confirm_intel (services : Services) (category : String) (style : Style)
    (keys : List String) :
    (confirm services category .intel style keys).2 =
      .ok (keys.foldr (intelStep (services.intel category) (accepted category style)) .empty) := by
  cases keys <;> rfl

theorem verdict_byIntel (intel : (key domain : String) → Except Failure IntelResponse)
    (accepted : List String) (asked : key ∈ keys) :
    (keys.foldr (intelStep intel accepted) .empty).verdict key = lookup intel accepted key := by
  obtain ⟨confirmed, failed⟩ := mem_byIntel intel accepted keys key
  exact Confirmation.verdict_eq (confirmed.trans (and_iff_right asked))
    (failed.trans (and_iff_right asked))

theorem lookup_failing (services : Services) (fails : String → Bool) (cause : Failure)
    (category : String) (accepted : List String) (key : String) :
    lookup ((services.failing fails cause).intel category) accepted key =
      if fails key then .failed else lookup (services.intel category) accepted key := by
  unfold lookup Services.failing
  cases failing : fails key with
  | true => simp [failing]
  | false => simp [failing]

/-! ### Two confirmations -/

/-- **A key's verdict does not depend on its batch.** In a confirmation from given answers the confirmed and the
failed keys are disjoint ones of those asked about, there are failed ones in the intel lookup only, and each
key has the verdict that the answers give on it alone, the one that it has in any other confirmation from
them. The intel lookup always has a confirmation, and if it fails on some keys, be it on a single one or on all
with one base, that changes the verdict on these only. -/
theorem batch_independence :
    (∀ (a : Answers) (services : Services) (category : String) (source : Source) (style : Style)
      (keys : List String) (confirmation : Confirmation), a.Allows services →
      (confirm services category source style keys).2 = .ok confirmation →
      confirmation.confirmed ⊆ keys ∧ confirmation.failed ⊆ keys ∧
      confirmation.confirmed.Disjoint confirmation.failed ∧
      (confirmation.failed ≠ [] → source = .intel) ∧
      (∀ key ∈ keys, confirmation.verdict key = a.verdict category source style key) ∧
      ∀ (other : Services) (others : List String) (again : Confirmation), a.Allows other →
        (confirm other category source style others).2 = .ok again →
        ∀ key ∈ keys, key ∈ others → again.verdict key = confirmation.verdict key) ∧
    ∀ (services : Services) (category : String) (style : Style) (keys : List String),
      ∃ confirmation, (confirm services category .intel style keys).2 = .ok confirmation ∧
        ∀ fails cause, ∃ again,
          (confirm (services.failing fails cause) category .intel style keys).2 = .ok again ∧
          ∀ key ∈ keys, again.verdict key =
            if fails key then .failed else confirmation.verdict key := by
  constructor
  · intro a services category source style keys confirmation allowed answer
    have answered := answered_of_confirm answer
    refine ⟨fun key confirmed => ((answered.mem_iff allowed key).1.mp confirmed).1,
      fun key failed => ((answered.mem_iff allowed key).2.mp failed).1,
      answered.disjoint allowed, answered.intel_of_failed,
      fun key asked => answered.verdict_eq allowed asked, ?_⟩
    intro other others again allowedAgain answerAgain key asked askedAgain
    rw [answered.verdict_eq allowed asked,
      (answered_of_confirm answerAgain).verdict_eq allowedAgain askedAgain]
  · intro services category style keys
    refine ⟨_, confirm_intel services category style keys,
      fun fails cause => ⟨_, confirm_intel _ category style keys, fun key asked => ?_⟩⟩
    rw [verdict_byIntel _ _ asked, verdict_byIntel _ _ asked, lookup_failing]

/-- The lookup knows one name and no more, and fails once although it is asked about that name. -/
def patchyAnswers : Answers where
  holds _ _ := true
  intel _ key name :=
    if key = "bad.com" then .error .timeout
    else if name = "bad.com" then .ok ⟨[⟨"bad.com", "ads"⟩]⟩
    else .ok ⟨[]⟩
  listFile _ := .error .notFound

/-- Services with these answers. -/
def patchy : Services where
  checkFilter _ := .ok ⟨[]⟩
  membership _ request := .ok ⟨some request.domains⟩
  intel := patchyAnswers.intel
  listFile := patchyAnswers.listFile

theorem allows_patchy : patchyAnswers.Allows patchy where
  membership _ request present reply digest named := by
    cases reply
    exact List.contains_iff_mem.mpr named
  intel := rfl
  listFile _ _ content := content

/-- A pattern is confirmed, its base cannot be looked up and another name is refuted, in one batch as in another
that repeats two of them. If the third cannot be looked up either, that changes nothing about the others. -/
theorem batch_independence_patchy :
    let keys := ["*.bad.com", "bad.com", "good.com"]
    let others := ["good.com", "bad.com", "new.com", "*.bad.com", "bad.com", "*.bad.com"]
    let ask := fun services keys => (confirm services "ads" .intel (.curated []) keys).2
    patchyAnswers.Allows patchy ∧
      ∃ confirmation again later, ask patchy keys = .ok confirmation ∧ ask patchy others = .ok again ∧
        ask (patchy.failing (· == "good.com") .timeout) keys = .ok later ∧
        confirmation = ⟨["*.bad.com"], ["bad.com"]⟩ ∧
        confirmation.confirmed.Disjoint confirmation.failed ∧
        (∀ key ∈ keys, confirmation.verdict key = patchyAnswers.verdict "ads" .intel (.curated []) key) ∧
        (∀ key ∈ keys, key ∈ others → again.verdict key = confirmation.verdict key) ∧
        again.verdict "*.bad.com" = .confirmed ∧ later.verdict "good.com" = .failed ∧
        later.verdict "*.bad.com" = .confirmed := by
  intro keys others ask
  obtain ⟨batch, single⟩ := batch_independence
  obtain ⟨confirmation, answer, failing⟩ := single patchy "ads" (.curated []) keys
  obtain ⟨later, answerLater, changed⟩ := failing (· == "good.com") .timeout
  obtain ⟨again, answerAgain, -⟩ := single patchy "ads" (.curated []) others
  obtain ⟨-, -, disjoint, -, alone, same⟩ := batch _ _ _ _ _ _ _ allows_patchy answer
  have alike := same _ _ _ allows_patchy answerAgain
  have known : confirmation = ⟨["*.bad.com"], ["bad.com"]⟩ := by
    have computed : ask patchy keys = .ok ⟨["*.bad.com"], ["bad.com"]⟩ := by decide +kernel
    exact Except.ok.inj (answer.symm.trans computed)
  have pattern : confirmation.verdict "*.bad.com" = .confirmed := by
    rw [known]
    decide +kernel
  refine ⟨allows_patchy, confirmation, again, later, answer, answerAgain, answerLater, known, disjoint,
    alone, alike, ?_, ?_, ?_⟩
  · rw [alike _ (by decide +kernel) (by decide +kernel), pattern]
  · rw [changed _ (by decide +kernel), if_pos (by decide +kernel)]
  · rw [changed _ (by decide +kernel), if_neg (by decide +kernel), pattern]

end Confirm

end CategoryFilter
