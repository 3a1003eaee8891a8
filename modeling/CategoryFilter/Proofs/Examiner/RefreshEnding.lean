/-
**The ways in which a refresh ends.**

A refresh is not to be done, cannot load its sets, finds them empty, is given up at a member for a shutdown,
or has its source fail or answer. `Ending` lists these six with what each leaves and returns, and `ending`
says that there are no others. `removed_answered` is what a refresh removes whose source answers.
-/

import CategoryFilter.Proofs.Examiner.Confirmation
import CategoryFilter.Proofs.Examiner.Drift

namespace CategoryFilter.State

open Category (setKeys)

variable {s : State} {around : Surroundings} {category : String}

/-- What the source of a category is asked about the members that the local filter still lists, and its
answer. -/
def consultation (s : State) (services : Services) (category : String) :
    List Question × Except Failure Confirmation :=
  Confirm.confirm services category (s.source category) (s.registry.style category)
    (((s.kept category).filter (Refresh.listed services category)).map (·.domain))

/-- The excluded hits are moved, all other members are checked, and the source was asked. -/
def questioned (s : State) (around : Surroundings) (category : String) : State :=
  (s.migrated around.clock category).ask
    ((s.begun around.clock category).questions ++ (s.consultation around.services category).1)

/-- The members that are no longer listed have left their sets; the flag says whether one was there. -/
def withoutUnlisted (s : State) (around : Surroundings) (category : String) : State × Bool :=
  (s.questioned around category).removeMembers (setKeys category)
    ((s.begun around.clock category).swept around.services).unmatched

/-- So have the members that the source contradicts. -/
def withoutRefuted (s : State) (around : Surroundings) (category : String)
    (confirmation : Confirmation) : State × Bool :=
  (s.withoutUnlisted around category).1.removeMembers (setKeys category)
    (((s.begun around.clock category).swept around.services).removals confirmation)

/-- Whether a refresh whose source answers has changed a membership. -/
def flagged (s : State) (around : Surroundings) (category : String) (confirmation : Confirmation) :
    Bool :=
  (s.begun around.clock category).changed || (s.withoutUnlisted around category).2 ||
    (s.withoutRefuted around category confirmation).2

/-- A refresh that finds members to check. -/
structure Begins (s : State) (around : Surroundings) (category : String) : Prop where
  going : s.Refreshable around category
  present : s.database.sets.isSome = true
  members : s.memberCount category ≠ 0

/-- Shutdown is asked for at none of the members that are checked. -/
def Unstopped (s : State) (around : Surroundings) (category : String) : Prop :=
  ∀ m ∈ s.kept category, around.stopped (.member category m.domain) = false

/-- **The ways in which a refresh ends.** -/
inductive Ending (s : State) (around : Surroundings) (category : String) : Prop
  /-- It is not to be done. -/
  | idle (idle : ¬ s.Refreshable around category) (ends : s.refresh around category = (s, .ok none))
  /-- The sets cannot be loaded. -/
  | unread (going : s.Refreshable around category) (missing : ¬ s.database.sets.isSome = true)
      (ends : s.refresh around category = (s, .error (.storage .database)))
  /-- There are no members. -/
  | empty (going : s.Refreshable around category) (present : s.database.sets.isSome = true)
      (none : s.memberCount category = 0) (ends : s.refresh around category = (s, .ok (some (.start category 0))))
  /-- Shutdown is asked for at a member. -/
  | stopped (begins : s.Begins around category)
      (stop : ∃ m ∈ s.kept category, around.stopped (.member category m.domain) = true)
      (ends : s.refresh around category =
        (((s.migrated around.clock category).ask
          ((s.begun around.clock category).questionsBefore around)).notifyIf
            (s.begun around.clock category).changed category, .ok none))
  /-- The source fails. -/
  | failed (begins : s.Begins around category) (through : s.Unstopped around category)
      {cause : Failure} (failure : (s.consultation around.services category).2 = .error cause)
      (ends : s.refresh around category =
        ((s.questioned around category).notifyIf (s.begun around.clock category).changed category,
          .error cause))
  /-- The source answers. -/
  | answered (begins : s.Begins around category) (through : s.Unstopped around category)
      {confirmation : Confirmation}
      (answer : (s.consultation around.services category).2 = .ok confirmation)
      (ends : s.refresh around category =
        ((s.withoutRefuted around category confirmation).1.notifyIf
          (s.flagged around category confirmation) category,
          .ok (some (concludedReport ((s.begun around.clock category).swept around.services)
            confirmation (s.flagged around category confirmation)))))

/-- A refresh that is not stopped at a member ends as its source says. -/
theorem refresh_unstopped (begins : s.Begins around category) (through : s.Unstopped around category) :
    let concluded := ((s.migrated around.clock category).ask
      (s.begun around.clock category).questions).concludeRefresh around.services
        ((s.begun around.clock category).swept around.services)
    s.refresh around category = (concluded.1, concluded.2.map some) := by
  rw [refresh_checks begins.going begins.present begins.members]
  exact checkMembers_through around _ _ _ rfl through

/-- A refresh that is stopped at a member has checked those before it, and has not asked the source. -/
theorem refresh_stopped (begins : s.Begins around category)
    (stop : ∃ m ∈ s.kept category, around.stopped (.member category m.domain) = true) :
    s.refresh around category =
      (((s.migrated around.clock category).ask
        ((s.begun around.clock category).questionsBefore around)).notifyIf
          (s.begun around.clock category).changed category, .ok none) := by
  rw [refresh_checks begins.going begins.present begins.members]
  exact checkMembers_stopped around _ _ _ rfl stop

/-- **A refresh ends in one of these ways.** -/
theorem ending (s : State) (around : Surroundings) (category : String) :
    s.Ending around category := by
  by_cases going : s.Refreshable around category
  case neg => exact .idle going (refresh_eq_none going)
  by_cases present : s.database.sets.isSome = true
  case neg => exact .unread going present (refresh_eq_error going present)
  by_cases none : s.memberCount category = 0
  case pos => exact .empty going present none (refresh_eq_start going present none)
  have begins : s.Begins around category := ⟨going, present, none⟩
  by_cases stop : ∃ m ∈ s.kept category, around.stopped (.member category m.domain) = true
  case pos => exact .stopped begins stop (refresh_stopped begins stop)
  have through : s.Unstopped around category := fun m listed =>
    Bool.eq_false_iff.mpr fun stopped => stop ⟨m, listed, stopped⟩
  -- The excluded hits are moved by now, which leaves the registry, and so the question to the source, as it was.
  let swept := (s.begun around.clock category).swept around.services
  let checked := (s.migrated around.clock category).ask (s.begun around.clock category).questions
  have same : checked.registry = s.registry := (migrated_reaches s around.clock category).registry
  have consults : consultMembers around.services (checked.registry.style swept.category) swept =
      s.consultation around.services category := by
    rw [same]
    rfl
  have asked : checked.ask (s.consultation around.services category).1 = s.questioned around category :=
    ask_ask _ _ _
  cases answer : (s.consultation around.services category).2 with
  | error cause =>
    refine .failed begins through answer ?_
    rw [refresh_unstopped begins through, concludeRefresh_failed (consults ▸ answer), consults, asked]
    rfl
  | ok confirmation =>
    refine .answered begins through answer ?_
    rw [refresh_unstopped begins through, concludeRefresh_answered (consults ▸ answer), consults, asked]
    rfl

/-- What a refresh removes whose source answers. -/
theorem removed_answered (through : s.Unstopped around category) {confirmation : Confirmation}
    (answer : (s.consultation around.services category).2 = .ok confirmation) :
    s.removed around category =
      (s.kept category).filter (!Refresh.listed around.services category ·) ++
        ((s.kept category).filter (Refresh.listed around.services category)).filter fun m =>
          !confirmation.failed.contains m.domain && Refresh.drifted confirmation m := by
  have running : ¬ ((s.kept category).any fun m => around.stopped (.member category m.domain)) = true :=
    fun stopped => by
      obtain ⟨m, listed, stop⟩ := List.any_eq_true.mp stopped
      exact Bool.false_ne_true ((through m listed).symm.trans stop)
  unfold consultation source at answer
  unfold removed
  rw [if_neg running, answer]

end CategoryFilter.State
