/-
**The enforcement data of a category.**

Beside its pair a category has the `dynamic` set of the patterns fed into enforcement. Only a feed of the
category changes it (`dynamic_write`), so writes of other categories leave all three of its sets as they are
(`Trail.sameSets`).
-/

import CategoryFilter.Proofs.Store.Write

namespace CategoryFilter

/-- The enforcement data of a category after a write. -/
def SortedSet.afterFeed (s : SortedSet) (category : String) : Write → SortedSet
  | .feed other pattern score => if other = category then s.insert pattern score else s
  | _ => s

namespace Database

open Category (sideKey)

variable {db middle after : Database} {category : String} {may : Database → Write → Prop}

/-- The enforcement data of a category. -/
def dynamic (db : Database) (category : String) : SortedSet :=
  db.setAt (Category.dynamicKey category)

theorem dynamic_replace (db : Database) (other category : String) (side : Side) (set : SortedSet) :
    (db.replace (sideKey other side) set).dynamic category = db.dynamic category := by
  unfold dynamic
  rw [setAt_replace, if_neg (Category.sideKey_ne_dynamicKey other category side).symm]

theorem dynamic_discard (db : Database) (other category : String) (side : Side) (name : String) :
    (db.discard (sideKey other side) name).dynamic category = db.dynamic category := by
  unfold dynamic
  rw [setAt_discard, if_neg (Category.sideKey_ne_dynamicKey other category side).symm]

/-- **What a write does to the enforcement data**: a feed adds to its category's. -/
theorem dynamic_write (db : Database) (w : Write) (category : String) :
    (db.write w).dynamic category = (db.dynamic category).afterFeed category w := by
  cases w with
  | record other m score =>
    show ((db.discard _ m.domain).replace _ _).dynamic category = _
    rw [dynamic_replace, dynamic_discard]
    rfl
  | remove other m => exact dynamic_discard db other category m.side m.domain
  | cut other side start stop => exact dynamic_replace db other category side _
  | clear other side => exact dynamic_replace db other category side _
  | feed other pattern score =>
    show (db.replace _ _).setAt _ = if other = category then _ else _
    rw [setAt_replace]
    by_cases same : other = category
    · subst same
      rw [if_pos rfl, if_pos rfl]
      rfl
    · rw [if_neg same, if_neg fun equal => same (Category.dynamicKey_injective equal).symm]
      rfl

theorem dynamic_write_of_ne {w : Write} (other : ∀ pattern score, w ≠ .feed category pattern score) :
    (db.write w).dynamic category = db.dynamic category := by
  rw [dynamic_write]
  cases w with
  | feed named pattern score =>
    refine if_neg fun same => other pattern score ?_
    rw [same]
  | _ => rfl

/-- Without feeds of a category its enforcement data stays as it is. -/
theorem Trail.dynamic_eq (trail : Trail may db after)
    (unfed : ∀ db w, may db w → ∀ pattern score, w ≠ .feed category pattern score) :
    after.dynamic category = db.dynamic category :=
  trail.preserves (P := fun now => now.dynamic category = db.dynamic category)
    (fun _ _ allowed held => (dynamic_write_of_ne (unfed _ _ allowed)).trans held) rfl

/-! ### All sets of a category -/

/-- The hits, the passthroughs and the enforcement data of a category are the same, with their scores. -/
structure SameSets (category : String) (db after : Database) : Prop where
  pair : after.pair category = db.pair category
  dynamic : after.dynamic category = db.dynamic category

namespace SameSets

theorem refl (category : String) (db : Database) : SameSets category db db := ⟨rfl, rfl⟩

theorem symm (same : SameSets category db after) : SameSets category after db :=
  ⟨same.pair.symm, same.dynamic.symm⟩

theorem trans (first : SameSets category db middle) (second : SameSets category middle after) :
    SameSets category db after :=
  ⟨second.pair.trans first.pair, second.dynamic.trans first.dynamic⟩

end SameSets

/-- **Writes of other categories leave all sets of a category as they are.** -/
theorem Trail.sameSets (trail : Trail may db after)
    (elsewhere : ∀ db w, may db w → w.category ≠ category) : SameSets category db after := by
  refine ⟨trail.pair_eq elsewhere, trail.dynamic_eq fun db w allowed pattern score fed => ?_⟩
  refine elsewhere db w allowed ?_
  rw [fed]
  rfl

end Database

end CategoryFilter
