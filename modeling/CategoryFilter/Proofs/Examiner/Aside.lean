/-
**What the turns of other categories leave to a category.**

A state is `Aside` of another for a category if what lies between them was done for other categories: the
three sets of the category are the same, and so are the table, the guards, the registry, the configuration,
the switch and the bound on attempts. A confirmation of other categories (`aside_confirmGroups`) and a
refresh of them (`aside_refreshEach`) step aside, whatever the database refuses.
-/

import CategoryFilter.Proofs.Examiner.Ledger
import CategoryFilter.Proofs.Store.Alike

namespace CategoryFilter

open Category (setKeys)

theorem Database.execute_trim_missing {db : Database} (missing : ¬ db.sets.isSome = true)
    (category : String) (limit : Nat) :
    (execute (Classification.trim (setKeys category) limit) db).2 = db := by
  have hits : execute (Classification.trimSet (setKeys category).hit limit) db = (.error .database, db) :=
    execute_bind_error (execute_bind_error (execute_readSets_missing missing))
  exact congrArg Prod.snd (execute_bind_error hits)

namespace State

open Database (Trail execute SameSets)

variable {s t u : State} {category name : String} {may : Database → Write → Prop}

/-- A state that was reached from another by what was done for other categories. -/
structure Aside (category : String) (s u : State) : Prop where
  sets : SameSets category s.database u.database
  present : u.database.sets.isSome = s.database.sets.isSome
  guarded : u.database.guarded = s.database.guarded
  registry : u.registry = s.registry
  config : u.config = s.config
  enabled : u.session.enabled = s.session.enabled
  attempts : u.session.queue.maxAttempts = s.session.queue.maxAttempts

namespace Aside

theorem refl (category : String) (s : State) : Aside category s s :=
  ⟨SameSets.refl _ _, rfl, rfl, rfl, rfl, rfl, rfl⟩

theorem trans (first : Aside category s t) (second : Aside category t u) : Aside category s u :=
  ⟨first.sets.trans second.sets, second.present.trans first.present,
    second.guarded.trans first.guarded, second.registry.trans first.registry,
    second.config.trans first.config, second.enabled.trans first.enabled,
    second.attempts.trans first.attempts⟩

/-- Writes for other categories step aside, if they do not make a missing table. -/
theorem of_reaches (reached : Reaches may s u)
    (elsewhere : ∀ db w, may db w → w.category ≠ category)
    (missing : ¬ s.database.sets.isSome = true → u.database = s.database)
    (attempts : u.session.queue.maxAttempts = s.session.queue.maxAttempts) : Aside category s u := by
  refine ⟨reached.trail.sameSets elsewhere, ?_, reached.trail.guarded_eq, reached.registry,
    reached.config, reached.enabled, attempts⟩
  by_cases there : s.database.sets.isSome = true
  · rw [there, reached.trail.present there]
  · rw [missing there]

end Aside

theorem aside_notifyIf (s : State) (changed : Bool) (name category : String) :
    Aside category s (s.notifyIf changed name) := by
  cases changed
  · exact .refl category s
  · exact ⟨SameSets.refl _ _, rfl, rfl, rfl, rfl, rfl, rfl⟩

/-! ### Confirmations -/

theorem database_apply_addTo_missing {m : Member} (missing : ¬ s.database.sets.isSome = true)
    (category : String) (score : Score) :
    (s.apply (Database.addTo category m score)).1.database = s.database := by
  rw [apply_fst]
  exact Database.execute_addTo_refused (fun accepted => missing accepted.present) category score

theorem database_feed_missing {at_ : Settling} (missing : ¬ at_.state.database.sets.isSome = true)
    (clock : Clock) (ruling : Ruling) (pattern : String) :
    (feed clock ruling pattern at_).state.database = at_.state.database := by
  unfold feed
  split
  · exact congrArg Prod.snd
      (Database.execute_insert_refused (fun accepted => missing accepted.present) _)
  · rfl

/-- Without the table nothing is settled. -/
theorem database_settle_missing {at_ : Settling} (missing : ¬ at_.state.database.sets.isSome = true)
    (clock : Clock) (ruling : Ruling) (p : Pending) :
    (settle clock ruling at_ p).state.database = at_.state.database := by
  cases failed : ruling.confirmation.failed.contains (ruling.source.key p.1) with
  | true =>
    rw [settle_failed clock failed]
    rfl
  | false =>
    cases hit : ruling.isHit p.1 with
    | true =>
      have kept := database_apply_addTo_missing (m := ⟨p.1.pattern, .hit⟩) missing ruling.category
        ruling.score
      rw [settle_hit clock failed hit]
      exact (database_feed_missing (kept.symm ▸ missing) clock ruling p.1.pattern).trans kept
    | false =>
      rw [settle_passthrough clock failed hit]
      exact database_apply_addTo_missing (m := ⟨p.1.origin, .passthrough⟩) missing ruling.category
        ruling.score

theorem database_settles_missing (clock : Clock) (ruling : Ruling) (items : List Pending) :
    ∀ at_ : Settling, ¬ at_.state.database.sets.isSome = true →
      (items.foldl (settle clock ruling) at_).state.database = at_.state.database := by
  induction items with
  | nil => exact fun _ _ => rfl
  | cons p rest ih =>
    intro at_ missing
    have kept := database_settle_missing missing clock ruling p
    exact (ih _ (kept.symm ▸ missing)).trans kept

/-- **Without the table a confirmation of a category changes nothing of the database.** -/
theorem database_confirmCategory_missing (missing : ¬ s.database.sets.isSome = true)
    (services : Services) (clock : Clock) (category : String) (items : List Pending) :
    (s.confirmCategory services clock category items).1.database = s.database := by
  cases recorded : (s.registry.strategy category).updateConfirmSet with
  | false => rw [confirmCategory_ignored recorded]
  | true =>
    cases answer : (s.consult services category items).2 with
    | error cause =>
      rw [confirmCategory_failed recorded answer, database_requeueAll]
      rfl
    | ok confirmation =>
      let asked := s.ask (s.consult services category items).1
      let ruling := s.ruling clock category confirmation
      have kept : (asked.settled clock ruling items).database = s.database :=
        database_settles_missing clock ruling items ⟨asked, .empty, []⟩ missing
      rw [confirmCategory_answered recorded answer]
      show ((asked.settled clock ruling items).trimSets category).1.database = _
      rw [database_trimSets, Database.execute_trim_missing (kept.symm ▸ missing), kept]

theorem aside_confirmGroup {so_far : State × ConfirmReport} {group : String × List Pending}
    (other : group.1 ≠ category) (services : Services) (clock : Clock) :
    Aside category so_far.1 (confirmGroup services clock so_far group).1 := by
  let confirmed := (so_far.1.confirmCategory services clock group.1 group.2).1
  refine .of_reaches (confirmGroup_reaches services clock so_far group)
    (fun db w allowed => category_of_confirms allowed ▸ other) (fun missing => ?_) ?_
  · exact (database_notifyIf confirmed _ _).trans
      (database_confirmCategory_missing missing services clock group.1 group.2)
  · have entered := enters_confirmCategory so_far.1 services clock group.1 group.2
    have queue : confirmed.session.queue = _ := entered.queue
    show (confirmed.notifyIf _ _).session.queue.maxAttempts = _
    rw [session_notifyIf, queue, Queue.maxAttempts_putBack]
    rfl

/-- **Confirmations of other categories step aside.** -/
theorem aside_confirmGroups (services : Services) (clock : Clock) (groups : List (String × List Pending)) :
    ∀ start : State × ConfirmReport, category ∉ groups.map Prod.fst →
      Aside category start.1 (groups.foldl (confirmGroup services clock) start).1 := by
  induction groups with
  | nil => exact fun start _ => .refl category start.1
  | cons group rest ih =>
    intro start absent
    obtain ⟨other, later⟩ := not_or.mp (List.mem_cons.not.mp absent)
    exact (aside_confirmGroup (Ne.symm other) services clock).trans (ih _ later)

/-! ### Refreshes -/

theorem database_refresh_missing (missing : ¬ s.database.sets.isSome = true) (around : Surroundings)
    (category : String) : (s.refresh around category).1 = s := by
  by_cases going : s.Refreshable around category
  · exact refresh_nothing going (Or.inl missing)
  · exact refresh_idle going

theorem aside_refresh (other : name ≠ category) (around : Surroundings) :
    Aside category s (s.refresh around name).1 := by
  refine .of_reaches (refresh_reaches_all s around name)
    (fun db w allowed => category_of_refreshes allowed ▸ other) (fun missing => ?_) ?_
  · rw [database_refresh_missing missing]
  · rw [session_refresh]

/-- **Refreshes of other categories step aside.** -/
theorem aside_refreshEach (around : Surroundings) (categories : List String) :
    ∀ s : State, category ∉ categories → Aside category s (s.refreshEach around categories).1 := by
  induction categories with
  | nil => exact fun s _ => .refl category s
  | cons first rest ih =>
    intro s absent
    obtain ⟨other, later⟩ := not_or.mp (List.mem_cons.not.mp absent)
    rw [refreshEach_cons]
    split
    · exact .refl category s
    · exact (aside_refresh (Ne.symm other) around).trans (ih _ later)

end State

end CategoryFilter
