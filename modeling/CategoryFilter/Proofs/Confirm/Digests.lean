/-
**What a hash set is asked, and what its answer confirms.**

Domains are grouped by their digests. The request names each digest once and nothing else of the domains; of
the answer only the digests that were asked for count, in whatever order or number it lists them.

* `Grouping`: each group holds the domains with its digest, and no digest has two groups. One domain more
  keeps that (`Grouping.add`), so grouping many does (`grouping_groupByDigest`).
* `mem_membershipRequest`, `mem_confirmedBy`: the digests of a request, and the domains that an answer
  confirms.
* `byHashSet_eq_error_iff`: a confirmation fails with its service, or if the answer has no domains.
* `hashed_confirmation`: all of it.
-/

import CategoryFilter.Confirm.HashSet
import CategoryFilter.Proofs.Lookup
import Mathlib.Data.List.Perm.Basic

namespace CategoryFilter.Confirm

/-! ### Groups -/

variable {groups : List (String × List String)} {digest domain key : String}

@[simp] theorem domainsWith_nil (key : String) : domainsWith [] key = [] := rfl

@[simp] theorem domainsWith_cons (key other : String) (held : List String)
    (groups : List (String × List String)) :
    domainsWith ((other, held) :: groups) key =
      if key = other then held else domainsWith groups key := by
  unfold domainsWith
  by_cases same : key = other
  · simp [same]
  · rw [if_neg same, lookup_cons_other same]

theorem domainsWith_addToDigest (digest domain key : String) (groups : List (String × List String)) :
    domainsWith (addToDigest digest domain groups) key =
      domainsWith groups key ++ if key = digest then [domain] else [] := by
  induction groups with
  | nil => simp [addToDigest]
  | cons group rest ih =>
    obtain ⟨other, held⟩ := group
    unfold addToDigest
    split
    · next same =>
      subst same
      by_cases here : key = other <;> simp [here]
    · next apart =>
      by_cases here : key = other
      · simp [here, apart]
      · simp [here, ih]

theorem mem_keys_addToDigest : key ∈ (addToDigest digest domain groups).map Prod.fst ↔
    key ∈ groups.map Prod.fst ∨ key = digest := by
  induction groups with
  | nil => simp [addToDigest]
  | cons group rest ih =>
    obtain ⟨other, held⟩ := group
    unfold addToDigest
    split
    · next same =>
      subst same
      simp [or_comm]
    · rw [List.map_cons, List.map_cons, List.mem_cons, List.mem_cons, ih, or_assoc]

theorem nodup_keys_addToDigest (digest domain : String) (distinct : (groups.map Prod.fst).Nodup) :
    ((addToDigest digest domain groups).map Prod.fst).Nodup := by
  induction groups with
  | nil => simp [addToDigest]
  | cons group rest ih =>
    obtain ⟨other, held⟩ := group
    rw [List.map_cons, List.nodup_cons] at distinct
    unfold addToDigest
    split
    · exact List.nodup_cons.mpr distinct
    · next apart =>
      refine List.nodup_cons.mpr ⟨fun listed => ?_, ih distinct.2⟩
      exact (mem_keys_addToDigest.mp listed).elim distinct.1 apart

/-- Groups of some domains: each holds those with its digest, in their order. -/
structure Grouping (makeDigest : String → String) (domains : List String)
    (groups : List (String × List String)) : Prop where
  held : ∀ key, domainsWith groups key = domains.filter fun domain => key = makeDigest domain
  keys : ∀ key, key ∈ groups.map Prod.fst ↔ ∃ domain ∈ domains, makeDigest domain = key
  distinct : (groups.map Prod.fst).Nodup

namespace Grouping

variable {makeDigest : String → String} {domains : List String}

theorem empty (makeDigest : String → String) : Grouping makeDigest [] [] :=
  ⟨fun _ => rfl, fun _ => by simp, List.nodup_nil⟩

/-- **One domain more is put into its group.** -/
theorem add (grouping : Grouping makeDigest domains groups) (domain : String) :
    Grouping makeDigest (domains ++ [domain]) (addToDigest (makeDigest domain) domain groups) := by
  refine ⟨fun key => ?_, fun key => ?_, nodup_keys_addToDigest _ _ grouping.distinct⟩
  · rw [domainsWith_addToDigest, grouping.held, List.filter_append, List.filter_cons]
    by_cases here : key = makeDigest domain <;> simp [here]
  · rw [mem_keys_addToDigest, grouping.keys]
    simp [or_and_right, exists_or, eq_comm]

theorem addAll (grouping : Grouping makeDigest domains groups) (more : List String) :
    Grouping makeDigest (domains ++ more)
      (more.foldl (fun groups domain => addToDigest (makeDigest domain) domain groups) groups) := by
  induction more generalizing domains groups with
  | nil => rwa [List.append_nil]
  | cons domain rest ih =>
    have later := ih (grouping.add domain)
    rwa [List.append_assoc] at later

end Grouping

/-- **Domains are grouped by their digests.** -/
theorem grouping_groupByDigest (makeDigest : String → String) (domains : List String) :
    Grouping makeDigest domains (groupByDigest makeDigest domains) :=
  (Grouping.empty makeDigest).addAll domains

/-! ### The request and the answer -/

variable {makeDigest : String → String} {domains others : List String} {id : String}
  {membership : MembershipRequest → Except Failure MembershipResponse}

theorem mem_membershipRequest : key ∈ (membershipRequest makeDigest id domains).domains ↔
    ∃ domain ∈ domains, makeDigest domain = key :=
  (grouping_groupByDigest makeDigest domains).keys key

theorem nodup_membershipRequest (makeDigest : String → String) (id : String) (domains : List String) :
    (membershipRequest makeDigest id domains).domains.Nodup :=
  (grouping_groupByDigest makeDigest domains).distinct

/-- **An answer confirms the domains whose digests it lists.** -/
theorem mem_confirmedBy {present : List String} : domain ∈ confirmedBy makeDigest domains present ↔
    domain ∈ domains ∧ makeDigest domain ∈ present := by
  have grouping := grouping_groupByDigest makeDigest domains
  simp only [confirmedBy, List.mem_eraseDups, List.mem_flatMap, grouping.held, List.mem_filter,
    decide_eq_true_eq]
  constructor
  · rintro ⟨found, listed, asked, rfl⟩
    exact ⟨asked, listed⟩
  · rintro ⟨asked, listed⟩
    exact ⟨_, listed, asked, rfl⟩

/-- A hash set that is asked about some domains: what is asked, and what becomes of the answer. -/
theorem byHashSet_asked (some : domains ≠ []) :
    byHashSet makeDigest membership id domains =
      ([.membership (membershipRequest makeDigest id domains)],
        match membership (membershipRequest makeDigest id domains) with
        | .ok ⟨Option.some present⟩ => .ok (confirmedBy makeDigest domains present)
        | .ok ⟨none⟩ => .error (noDomains id)
        | .error cause => .error cause) := by
  unfold byHashSet
  rw [List.isEmpty_eq_false_iff.mpr some, if_neg Bool.false_ne_true]
  dsimp only
  rcases membership (membershipRequest makeDigest id domains) with cause | ⟨_ | present⟩ <;> rfl

/-- Domains with the same digests are asked about by the same request, up to its order. -/
theorem membershipRequest_perm
    (same : ∀ key, key ∈ others.map makeDigest ↔ key ∈ domains.map makeDigest) :
    (membershipRequest makeDigest id others).domains.Perm
      (membershipRequest makeDigest id domains).domains := by
  refine (List.perm_ext_iff_of_nodup (nodup_membershipRequest _ _ _)
    (nodup_membershipRequest _ _ _)).mpr fun key => ?_
  rw [mem_membershipRequest, mem_membershipRequest]
  simpa using same key

/-- A confirmation fails with its service, or if the answer has no domains. -/
theorem byHashSet_eq_error_iff (some : domains ≠ []) (cause : Failure) :
    (byHashSet makeDigest membership id domains).2 = .error cause ↔
      membership (membershipRequest makeDigest id domains) = .error cause ∨
      membership (membershipRequest makeDigest id domains) = .ok ⟨none⟩ ∧ cause = noDomains id := by
  rw [byHashSet_asked some]
  rcases membership (membershipRequest makeDigest id domains) with cause | ⟨_ | present⟩ <;>
    simp [eq_comm]

/-- **A hash set is asked once, for digests only, and its answer confirms the domains asked about whose
digests it lists.** Without domains nothing is asked. The request names the hash set and each digest once, so
that domains with the same digests are asked about alike, up to order. The confirmation fails with the
service, or since the answer has no domains; otherwise it holds just the domains whose digests the answer
lists, whatever else that lists, in any order and number. -/
theorem hashed_confirmation (makeDigest : String → String)
    (membership : MembershipRequest → Except Failure MembershipResponse) (id : String)
    (domains : List String) :
    (domains = [] → byHashSet makeDigest membership id domains = ([], .ok [])) ∧
    (domains ≠ [] → ∃ request outcome,
      byHashSet makeDigest membership id domains = ([.membership request], outcome) ∧
      request.id = id ∧ request.domains.Nodup ∧
      (∀ key, key ∈ request.domains ↔ ∃ domain ∈ domains, makeDigest domain = key) ∧
      (∀ cause, outcome = .error cause ↔ membership request = .error cause ∨
        membership request = .ok ⟨none⟩ ∧
          cause = .source ("membership response for " ++ id ++ " has no domains")) ∧
      (∀ present, membership request = .ok ⟨some present⟩ → ∃ confirmed, outcome = .ok confirmed ∧
        ∀ domain, domain ∈ confirmed ↔ domain ∈ domains ∧ makeDigest domain ∈ present) ∧
      ∀ others, (∀ key, key ∈ others.map makeDigest ↔ key ∈ domains.map makeDigest) →
        ∃ again, (byHashSet makeDigest membership id others).1 = [.membership again] ∧
          again.id = request.id ∧ again.domains.Perm request.domains) := by
  refine ⟨by rintro rfl; rfl, fun some => ?_⟩
  refine ⟨membershipRequest makeDigest id domains, (byHashSet makeDigest membership id domains).2,
    Prod.ext (by rw [byHashSet_asked some]) rfl, rfl,
    nodup_membershipRequest makeDigest id domains, fun key => mem_membershipRequest,
    byHashSet_eq_error_iff some, fun present answer => ?_, fun others same => ?_⟩
  · refine ⟨confirmedBy makeDigest domains present, ?_, fun domain => mem_confirmedBy⟩
    rw [byHashSet_asked some, answer]
  · have others_some : others ≠ [] := by
      rintro rfl
      obtain ⟨domain, listed⟩ := List.exists_mem_of_ne_nil _ some
      simpa using (same (makeDigest domain)).mpr (List.mem_map_of_mem listed)
    exact ⟨membershipRequest makeDigest id others, by rw [byHashSet_asked others_some], rfl,
      membershipRequest_perm same⟩

/-- A service that finds one name, twice, and one that nobody asked about. -/
def findsTwice (_ : MembershipRequest) : Except Failure MembershipResponse :=
  .ok ⟨some ["x.com", "a.com", "a.com"]⟩

/-- Two spellings of one name, with its lower case for a digest. -/
theorem hashed_confirmation_spellings :
    let lower := fun name : String => String.ofList (Text.lowerAscii name.toList)
    let names := ["A.com", "b.com", "a.com", "A.com"]
    byHashSet lower findsTwice "games" [] = ([], .ok []) ∧ names ≠ [] ∧
      ∃ request confirmed,
        byHashSet lower findsTwice "games" names = ([.membership request], .ok confirmed) ∧
        request = ⟨"games", ["a.com", "b.com"]⟩ ∧
        findsTwice request = .ok ⟨some ["x.com", "a.com", "a.com"]⟩ ∧
        (∀ name, name ∈ confirmed ↔ name ∈ names ∧ lower name ∈ ["x.com", "a.com", "a.com"]) ∧
        (∀ key, key ∈ ["b.com", "a.com"].map lower ↔ key ∈ names.map lower) ∧
        ∃ again, (byHashSet lower findsTwice "games" ["b.com", "a.com"]).1 = [.membership again] ∧
          again.domains.Perm request.domains := by
  intro lower names
  obtain ⟨nothing, asking⟩ := hashed_confirmation lower findsTwice "games" names
  have some : names ≠ [] := List.cons_ne_nil _ _
  obtain ⟨request, outcome, asked, -, -, -, -, answered, alike⟩ := asking some
  obtain ⟨confirmed, rfl, exact⟩ := answered _ rfl
  have same : ∀ key, key ∈ ["b.com", "a.com"].map lower ↔ key ∈ names.map lower := by
    have first : ["b.com", "a.com"].map lower = ["b.com", "a.com"] := by decide +kernel
    have second : names.map lower = ["a.com", "b.com", "a.com", "a.com"] := by decide +kernel
    intro key
    rw [first, second]
    simp [or_comm]
  obtain ⟨again, askedAgain, -, order⟩ := alike _ same
  have named : membershipRequest lower "games" names = ⟨"games", ["a.com", "b.com"]⟩ := by
    decide +kernel
  refine ⟨(hashed_confirmation lower findsTwice "games" []).1 rfl, some, request, confirmed, asked, ?_,
    rfl, exact, same, again, askedAgain, order⟩
  rw [byHashSet_asked some] at asked
  rw [← named]
  exact (Question.membership.inj (List.cons.inj (Prod.ext_iff.mp asked).1).1).symm

end CategoryFilter.Confirm
