/-
**Excluded names do not become hits.**

* `Performs.outside`: no call records a hit that is excluded.
* `score?_hit_perform`: so an excluded name that is a hit after a call was one before, at the same score.
* `outside_run`: hits free of excluded names stay so while the exclusions stay the same.
* `exclusions_dominate`: all of this, and after a refresh of a category, however it ended, no hit is
  excluded and every excluded former hit is a passthrough.
-/

import CategoryFilter.Proofs.Examiner.Run
import CategoryFilter.Proofs.Exclusion
import CategoryFilter.Store.Schema

namespace CategoryFilter.State

open Database (Trail)

variable {s : State} {category name : String} {score : Score} {x : Exclusions}

/-- A call records only hits that are not excluded. -/
theorem Performs.outside {registry : Registry} {db : Database} {w : Write}
    (allowed : Performs registry db w) {m : Member} (made : w = .record category m score)
    (hit : m.side = .hit) : (registry.exclusions category).covers m.domain = false := by
  subst made
  cases allowed with
  | detect recalled =>
    obtain ⟨-, -, outside⟩ := recalled
    exact outside
  | confirm confirmed =>
    obtain ⟨other, confirmed⟩ := confirmed
    cases confirmed with
    | hit outside => exact outside
    | passthrough => cases hit
  | refresh other refreshed =>
    rcases refreshed with moved | removed
    · cases moved
      cases hit
    · cases removed
  | deactivate other cleared =>
    obtain ⟨side, made⟩ := cleared
    cases made

/-- A hit after a write that does not record it was a hit before, at the same score. -/
theorem score?_hit_after {p : SetPair} (w : Write)
    (unrecorded : ∀ category m score, w = .record category m score → m.side = .hit → m.domain ≠ name)
    (found : (p.after w .hit).score? name = some score) : (p .hit).score? name = some score := by
  cases w with
  | record category m new =>
    rw [SetPair.after, SetPair.score?_record] at found
    by_cases same : name = m.domain
    · rw [if_pos same] at found
      by_cases hit : Side.hit = m.side
      · exact absurd same.symm (unrecorded category m new rfl hit.symm)
      · rw [if_neg hit] at found
        cases found
    · rwa [if_neg same] at found
  | _ =>
    refine SortedSet.Within.score? ?_ found
    exact SetPair.after_within (by trivial) .hit

/-- **An excluded hit after a call was one before**, at the same score. -/
theorem score?_hit_perform (covered : (s.registry.exclusions category).covers name = true) (c : Call)
    (found : ((s.perform c).database.pair category .hit).score? name = some score) :
    (s.database.pair category .hit).score? name = some score := by
  refine (perform_reaches s c).trail.preserves
    (P := fun db => (db.pair category .hit).score? name = some score →
      (s.database.pair category .hit).score? name = some score)
    (fun db w allowed before found => before ?_) id found
  rw [Database.pair_write] at found
  by_cases here : w.category = category
  · rw [if_pos here] at found
    refine score?_hit_after w (fun other m new made hit same => ?_) found
    have outside := allowed.outside made hit
    have own : other = category := by rw [← here, made]; rfl
    rw [own, same, covered] at outside
    cases outside
  · rwa [if_neg here] at found

/-- No hit of a category is covered by a list. -/
def HitsOutside (s : State) (category : String) (x : Exclusions) : Prop :=
  ∀ name, (s.database.pair category .hit).contains name = true → x.covers name = false

theorem outside_step (held : s.HitsOutside category (s.registry.exclusions category)) (step : Step) :
    (s.step step).HitsOutside category (s.registry.exclusions category) := by
  intro name hit
  cases step with
  | configure registry => exact held name hit
  | call c =>
    refine Bool.eq_false_iff.mpr fun covered => ?_
    obtain ⟨score, found⟩ := Option.isSome_iff_exists.mp hit
    have before : (s.database.pair category .hit).contains name = true := by
      unfold SortedSet.contains
      rw [score?_hit_perform covered c found]
      rfl
    rw [held name before] at covered
    cases covered

/-- **Hits free of excluded names stay so** while the exclusions of the category stay the same. -/
theorem outside_run (steps : List Step) :
    ∀ s : State, (∀ done, done <+: steps → (s.run done).registry.exclusions category = x) →
      s.HitsOutside category x → (s.run steps).HitsOutside category x := by
  induction steps with
  | nil => exact fun _ _ held => held
  | cons step rest ih =>
    intro s same held
    have start : s.registry.exclusions category = x := same [] (List.nil_prefix)
    refine ih (s.step step) (fun done before => ?_) ?_
    · exact same (step :: done) (List.cons_prefix_cons.mpr ⟨rfl, before⟩)
    · rw [← start] at held ⊢
      exact outside_step held step

/-- **Exclusions come first.** A call leaves no excluded hit that was not there before at the same score;
hits free of excluded names stay so while the exclusions stay the same; after a refresh none is
excluded, and the excluded former hits are passthroughs; a bloom-filter variant has the exclusions of the
category under it. -/
theorem exclusions_dominate (s : State) (category : String) :
    (∀ c name score, (s.registry.exclusions category).covers name = true →
      ((s.perform c).database.pair category .hit).score? name = some score →
      (s.database.pair category .hit).score? name = some score) ∧
    (∀ x steps, (∀ done, done <+: steps → (s.run done).registry.exclusions category = x) →
      s.HitsOutside category x → (s.run steps).HitsOutside category x) ∧
    (∀ around, s.Refreshable around category →
      (∀ name ∈ s.excludedHits category, s.database.Accepts name) →
      (s.refresh around category).1.HitsOutside category (s.registry.exclusions category) ∧
        ∀ name ∈ s.excludedHits category,
          ((s.refresh around category).1.database.pair category .passthrough).contains name = true) ∧
    (∀ base d entry name, base ≠ "" → category = base ++ "_bf" → s.registry.definition? base = some d →
      entry ∈ d.excludedDomains → Domain.covered name entry = true →
      (s.registry.exclusions category).covers name = true) := by
  refine ⟨fun c name score covered found => score?_hit_perform covered c found,
    fun x steps same held => outside_run steps s same held, fun around going accepted => ?_, ?_⟩
  · have reconciled := refresh_reconciled going accepted
    refine ⟨fun name hit => (reconciled.hits name hit).2, fun name listed => ?_⟩
    obtain ⟨hit, covered⟩ := SetPair.mem_excluded.mp listed
    exact reconciled.moved name hit covered
  · rintro base d entry name named rfl defined listed covered
    exact Registry.covers_variant named defined listed covered

/-- Surroundings in which nothing answers. -/
def silent : Surroundings where
  services := {
    checkFilter := fun _ => .error .timeout
    membership := fun _ _ => .error .timeout
    intel := fun _ _ _ => .error .timeout
    listFile := fun _ => .error .notFound }
  clock _ := 2
  instant := 0
  stopped _ := false

/-- A category with a wildcard among its exclusions. -/
def covering : Definition :=
  { Definition.new "games" with excludedDomains := ["*.a.com"] }

/-- A new state with a bloom-filter variant of the category that has some hits. -/
def variant (hits : SortedSet) : State :=
  .new { Config.standard with categories := [covering, .new "games_bf"] }
    (Database.new.replace (Category.hitKey "games_bf") hits)

/-- The variant without hits. -/
def fresh : State := variant .empty

/-- The variant with a hit that is excluded. -/
def stale : State := variant (.insert .empty "x.a.com" 1)

/-- The variant keeps an excluded hit until its refresh, and gets none while it has none. -/
theorem exclusions_dominate_variant :
    ((stale.registry.exclusions "games_bf").covers "x.a.com" = true ∧
      ((stale.perform (.deactivate "games")).database.pair "games_bf" .hit).score? "x.a.com" =
        some 1 ∧
      (stale.database.pair "games_bf" .hit).score? "x.a.com" = some 1) ∧
    ((∀ done, done <+: [Step.call (.deactivate "games_bf")] →
        (fresh.run done).registry.exclusions "games_bf" = fresh.registry.exclusions "games_bf") ∧
      fresh.HitsOutside "games_bf" (fresh.registry.exclusions "games_bf") ∧
      (fresh.run [Step.call (.deactivate "games_bf")]).HitsOutside "games_bf"
        (fresh.registry.exclusions "games_bf")) ∧
    (stale.Refreshable silent "games_bf" ∧
      (∀ name ∈ stale.excludedHits "games_bf", stale.database.Accepts name) ∧
      (stale.refresh silent "games_bf").1.HitsOutside "games_bf"
        (stale.registry.exclusions "games_bf") ∧
      ∀ name ∈ stale.excludedHits "games_bf",
        ((stale.refresh silent "games_bf").1.database.pair "games_bf" .passthrough).contains name =
          true) ∧
    ("games" ≠ "" ∧ "games_bf" = "games" ++ "_bf" ∧
      fresh.registry.definition? "games" = some covering ∧ "*.a.com" ∈ covering.excludedDomains ∧
      Domain.covered "y.a.com" "*.a.com" = true ∧
      (fresh.registry.exclusions "games_bf").covers "y.a.com" = true) := by
  have before : (stale.registry.exclusions "games_bf").covers "x.a.com" = true := by decide +kernel
  have after : ((stale.perform (.deactivate "games")).database.pair "games_bf" .hit).score? "x.a.com" =
      some 1 := by decide +kernel
  have same : ∀ done, done <+: [Step.call (.deactivate "games_bf")] →
      (fresh.run done).registry.exclusions "games_bf" = fresh.registry.exclusions "games_bf" := by
    intro done within
    rcases List.prefix_cons_iff.mp within with rfl | ⟨rest, rfl, last⟩
    · rfl
    · rw [List.prefix_nil.mp last]
      decide +kernel
  have free : fresh.HitsOutside "games_bf" (fresh.registry.exclusions "games_bf") := by
    intro name hit
    cases hit
  have going : stale.Refreshable silent "games_bf" := ⟨by decide +kernel, rfl, by decide +kernel⟩
  have accepted : ∀ name ∈ stale.excludedHits "games_bf", stale.database.Accepts name :=
    fun _ _ => ⟨rfl, rfl⟩
  have defined : fresh.registry.definition? "games" = some covering := by decide +kernel
  have listed : "*.a.com" ∈ covering.excludedDomains := List.mem_singleton.mpr rfl
  have covered : Domain.covered "y.a.com" "*.a.com" = true := by decide +kernel
  obtain ⟨call, -, refresh, -⟩ := exclusions_dominate stale "games_bf"
  obtain ⟨-, run, -, inherit⟩ := exclusions_dominate fresh "games_bf"
  exact ⟨⟨before, after, call _ _ _ before after⟩, ⟨same, free, run _ _ same free⟩,
    ⟨going, accepted, refresh silent going accepted⟩,
    ⟨by decide, by decide, defined, listed, covered,
      inherit "games" covering "*.a.com" "y.a.com" (by decide) (by decide) defined listed covered⟩⟩

end CategoryFilter.State
