/-
**What a detection does to the sets.**

`detect_reaches`: it gives new scores to names that are not excluded, in the sets that they are in
(`Recalls`), whatever the local filter answers.
-/

import CategoryFilter.Examiner.Detection
import CategoryFilter.Proofs.Examiner.Reaches

namespace CategoryFilter.State

open Database (Trail execute)
open Category (setKeys)

variable {s : State} {may : Database → Write → Prop}

/-- A new score for a name that is not excluded, in the set that it is in. -/
inductive Recalls (registry : Registry) (db : Database) : Write → Prop
  | intro {category : String} {m : Member} {score : Score}
      (active : registry.isActive category = true)
      (held : (db.pair category m.side).contains m.domain = true)
      (allowed : (registry.exclusions category).covers m.domain = false) :
      Recalls registry db (.record category m score)

theorem execute_isHit {db : Database} (present : db.sets.isSome = true) (category name : String) :
    execute (Classification.isHit (setKeys category) name) db =
      (.ok ((db.pair category .hit).contains name), db) :=
  Database.execute_bind_ok (Database.execute_score? present)

theorem execute_isPassthrough {db : Database} (present : db.sets.isSome = true)
    (category name : String) :
    execute (Classification.isPassthrough (setKeys category) name) db =
      (.ok ((db.pair category .passthrough).contains name), db) :=
  Database.execute_bind_ok (Database.execute_score? present)

theorem execute_recallMatch_missing {db : Database} (missing : ¬ db.sets.isSome = true)
    (keys : Category.SetKeys) (score : Score) (pattern origin : String) :
    execute (recallMatch keys score pattern origin) db = (.error .database, db) := by
  have unread : execute (Classification.isHit keys pattern) db = (.error .database, db) :=
    Database.execute_bind_error
      (Database.execute_bind_error (Database.execute_readSets_missing missing))
  exact Database.execute_bind_error unread

theorem recallMatch_trail {registry : Registry} {db : Database} {category pattern origin : String}
    (active : registry.isActive category = true)
    (outside : (registry.exclusions category).coversAny [origin, pattern] = false) (score : Score) :
    Trail (Recalls registry) db
      (execute (recallMatch (setKeys category) score pattern origin) db).2 := by
  have free : (registry.exclusions category).covers origin = false ∧
      (registry.exclusions category).covers pattern = false := by
    simpa [Exclusions.coversAny] using outside
  by_cases present : db.sets.isSome = true
  · unfold recallMatch
    rw [Database.execute_bind_ok (execute_isHit present category pattern)]
    split
    · next held =>
      have allowed : Recalls registry db (.record category ⟨pattern, .hit⟩ score) :=
        .intro active held free.2
      exact Database.trail_bind (Database.trail_addTo db category ⟨pattern, .hit⟩ score allowed)
        fun _ last => Trail.refl last
    · rw [Database.execute_bind_ok (execute_isPassthrough present category origin)]
      split
      · next held =>
        have allowed : Recalls registry db (.record category ⟨origin, .passthrough⟩ score) :=
          .intro active held free.1
        exact Database.trail_bind
          (Database.trail_addTo db category ⟨origin, .passthrough⟩ score allowed)
          fun _ last => Trail.refl last
      · exact Trail.refl db
  · rw [execute_recallMatch_missing present]
    exact Trail.refl db

theorem examineMatch_reaches {category : String} (active : s.registry.isActive category = true)
    (score : Score) (pattern origin : String) :
    Reaches (Recalls s.registry) s (s.examineMatch score category pattern origin).1 := by
  unfold examineMatch
  split
  · exact Reaches.refl s
  · next outside =>
    have recalled := apply_reaches (s := s)
      (recallMatch_trail active (Bool.eq_false_iff.mpr outside) score)
    revert recalled
    rcases s.apply (recallMatch (setKeys category) score pattern origin) with ⟨t, _ | _⟩
    · exact id
    · exact fun recalled => recalled.trans (withQueue_reaches t _)

theorem isActive_of_matchedCategory? {r : FilterResult} {category : String}
    (found : s.matchedCategory? r = some category) : s.registry.isActive category = true := by
  unfold matchedCategory? at found
  split at found
  · exact (Option.filter_eq_some_iff.mp found).2
  · cases found

theorem examineResults_reaches (s : State) (clock : Clock) (origin : String)
    (results : List FilterResult) :
    Reaches (Recalls s.registry) s (s.examineResults clock origin results).1 := by
  refine foldl_reaches Prod.fst (examineResult clock origin) results.zipIdx (s, 0)
    fun found r _ same => ?_
  unfold examineResult
  split
  · next category matched =>
    show Reaches _ _ (found.1.examineMatch (clock (.result r.2)) category _ origin).1
    have same : found.1.registry = s.registry := same
    rw [← same]
    exact examineMatch_reaches (isActive_of_matchedCategory? matched) _ _ _
  · exact Reaches.refl _

theorem receiveFilter_reaches (s : State) (clock : Clock) (origin : String)
    (answer : Except Failure FilterResponse) :
    Reaches (Recalls s.registry) s (s.receiveFilter clock origin answer).1 := by
  unfold receiveFilter
  split
  · exact examineResults_reaches _ _ _ _
  · exact Reaches.refl s

theorem admits_reaches (s : State) (origin : String) (instant : Int) :
    Reaches may s (s.admits origin instant).1 := by
  unfold admits
  split
  · exact ⟨Trail.refl _, rfl, rfl, rfl⟩
  · exact Reaches.refl s

/-- **A detection only recalls.** -/
theorem detect_reaches (s : State) (around : Surroundings) (origin : String) :
    Reaches (Recalls s.registry) s (s.detect around origin).1 := by
  have admitted : Reaches (Recalls s.registry) s (s.admits origin around.instant).1 :=
    admits_reaches s origin around.instant
  unfold detect
  rcases step : s.admits origin around.instant with ⟨t, _ | _⟩
  · rwa [step] at admitted
  · rw [step] at admitted
    have asked := admitted.trans (ask_reaches t [.filter (detectionRequest origin)])
    refine asked.trans ?_
    rw [← asked.registry]
    exact receiveFilter_reaches _ _ _ _

/-! ### Known matches -/

/-- A match whose pattern is a hit, or whose origin is a passthrough, is no candidate. -/
theorem recallMatch_known {db : Database} {category pattern origin : String}
    (healthy : db.Healthy)
    (known : (db.pair category .hit).contains pattern = true ∨
      (db.pair category .passthrough).contains origin = true) (score : Score) :
    (execute (recallMatch (setKeys category) score pattern origin) db).1 = .ok false := by
  unfold recallMatch
  rw [Database.execute_bind_ok (execute_isHit healthy.present category pattern)]
  split
  · have added : execute (Classification.addHit (setKeys category) pattern score) db = _ :=
      Database.execute_addTo (m := ⟨pattern, .hit⟩) (healthy.accepts pattern) category score
    rw [Database.execute_bind_ok added]
    rfl
  · next absent =>
    have held := known.resolve_left absent
    have added : execute (Classification.addPassthrough (setKeys category) origin score) db = _ :=
      Database.execute_addTo (m := ⟨origin, .passthrough⟩) (healthy.accepts origin) category score
    rw [Database.execute_bind_ok (execute_isPassthrough healthy.present category origin),
      if_pos held, Database.execute_bind_ok added]
    rfl

/-- Examining a match that is excluded or known queues nothing. -/
theorem examineMatch_known {category pattern origin : String} (healthy : s.database.Healthy)
    (known : (s.registry.exclusions category).coversAny [origin, pattern] = true ∨
      (s.database.pair category .hit).contains pattern = true ∨
      (s.database.pair category .passthrough).contains origin = true) (score : Score) :
    (s.examineMatch score category pattern origin).2 = false ∧
      (s.examineMatch score category pattern origin).1.session.queue = s.session.queue := by
  unfold examineMatch
  split
  · exact ⟨rfl, rfl⟩
  · next outside =>
    have recalled := apply_snd (recallMatch_known healthy (known.resolve_left outside) score)
    have kept : (s.apply (recallMatch (setKeys category) score pattern origin)).1.session.queue =
        s.session.queue := by
      rw [apply_fst]
    rcases step : s.apply (recallMatch (setKeys category) score pattern origin) with ⟨t, unknown⟩
    rw [step] at recalled kept
    cases recalled
    exact ⟨rfl, kept⟩

end CategoryFilter.State
