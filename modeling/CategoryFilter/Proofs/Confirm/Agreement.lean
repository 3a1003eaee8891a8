/-
**A confirmation depends on the answers to its own questions.**

Services `AgreeOn` some questions of a category if they answer each of them the same and hold the same list
file of the category. All other answers may differ.

* `confirm_congr`: services that agree on what a confirmation asks give the same confirmation, and are asked
  the same.
-/

import CategoryFilter.Confirm.Basic
import CategoryFilter.Proofs.Confirm.Digests

namespace CategoryFilter

/-- Other services answer some questions the same and hold the same list file of a category. -/
structure Services.AgreeOn (category : String) (asked : List Question) (services other : Services) :
    Prop where
  filter : ∀ request, .filter request ∈ asked → other.checkFilter request = services.checkFilter request
  membership : ∀ request, .membership request ∈ asked →
    other.membership category request = services.membership category request
  intel : ∀ key domain, .intel domain ∈ asked →
    other.intel category key domain = services.intel category key domain
  listFile : ∀ name, Confirm.listFileName category = .ok name → other.listFile name = services.listFile name

variable {services other : Services} {category : String} {asked fewer : List Question}

theorem Services.AgreeOn.subset (agree : services.AgreeOn category asked other) (within : fewer ⊆ asked) :
    services.AgreeOn category fewer other :=
  ⟨fun request listed => agree.filter request (within listed),
    fun request listed => agree.membership request (within listed),
    fun key domain listed => agree.intel key domain (within listed), agree.listFile⟩

namespace Confirm

theorem loadList_congr
    (same : ∀ name, listFileName category = .ok name → other.listFile name = services.listFile name) :
    loadList other.listFile category = loadList services.listFile category := by
  unfold loadList
  cases named : listFileName category with
  | error cause => rfl
  | ok name =>
    dsimp only [bind, Except.bind]
    rw [same name named]

variable (category) in
theorem byIntel_congr (style : Style) {keys : List String}
    (same : ∀ key ∈ keys, other.intel category key (Domain.base key) =
      services.intel category key (Domain.base key)) :
    byIntel other category style keys = byIntel services category style keys := by
  refine Prod.ext rfl ?_
  show keys.foldr (intelStep (other.intel category) _) _ =
    keys.foldr (intelStep (services.intel category) _) _
  induction keys with
  | nil => rfl
  | cons key rest ih =>
    rw [List.foldr_cons, List.foldr_cons, ih fun other listed => same other (List.mem_cons_of_mem _ listed)]
    unfold intelStep
    rw [same key List.mem_cons_self]

/-- **Services that agree on the questions of a confirmation are asked the same and confirm the same.** -/
theorem confirm_congr {source : Source} {style : Style} {keys : List String}
    (agree : services.AgreeOn category (confirm services category source style keys).1 other) :
    confirm other category source style keys = confirm services category source style keys := by
  unfold confirm at agree ⊢
  split
  · rfl
  · next some =>
    rw [if_neg some] at agree
    cases source with
    | trusted => rfl
    | file =>
      dsimp only
      unfold byListFile
      rw [loadList_congr agree.listFile]
    | cloud =>
      have keyed : keys ≠ [] := mt List.isEmpty_iff.mpr some
      dsimp only at agree ⊢
      rw [byHashSet_asked keyed] at agree ⊢
      rw [byHashSet_asked keyed, agree.membership _ List.mem_cons_self]
    | intel =>
      dsimp only at agree ⊢
      have same := byIntel_congr category style fun key listed =>
        agree.intel key (Domain.base key) (List.mem_map_of_mem listed)
      rw [same]

end Confirm

end CategoryFilter
