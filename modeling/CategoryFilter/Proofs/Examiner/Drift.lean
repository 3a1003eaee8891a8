/-
**Which members a refresh removes.**

The members that are not excluded (`kept`) are checked one after another. If shutdown is asked for at one
of them, or the source fails, all of them stay. Else those go that the local filter no longer lists,
and of those that it lists the ones that the source contradicts (`removed`).

* `checkMembers_through`, `checkMembers_stopped`: the loop over the members, with its state.
* `pair_refresh`: in a healthy database a refresh makes the excluded hits passthroughs and takes the
  removed members out of their sets.
* `remaining_refresh`: so the former passthroughs that are left are those that are not removed.
-/

import CategoryFilter.Proofs.Examiner.Refresh

namespace CategoryFilter

open Category (setKeys)

namespace Refresh

/-- Whether the local filter still lists a member of a category. -/
def listed (services : Services) (category : String) (m : Member) : Bool :=
  stillListed (Category.filterUid category) (services.checkFilter (request category m.domain))

/-- A refresh after all of its remaining members were checked. -/
def swept (r : Refresh) (services : Services) : Refresh :=
  { r with
    remaining := []
    unmatched := r.unmatched ++ r.remaining.filter (!listed services r.category ·)
    escalated := r.escalated ++ r.remaining.filter (listed services r.category) }

/-- The questions about the remaining members of a refresh. -/
def questions (r : Refresh) : List Question :=
  r.remaining.map fun m => .filter (request r.category m.domain)

/-- The questions about the remaining members before the first one at which shutdown is asked for. -/
def questionsBefore (r : Refresh) (around : Surroundings) : List Question :=
  (r.remaining.takeWhile fun m => !around.stopped (.member r.category m.domain)).map
    fun m => .filter (request r.category m.domain)

variable {r : Refresh} {m : Member} {rest : List Member}

theorem swept_done (none : r.remaining = []) (services : Services) : r.swept services = r := by
  obtain ⟨category, strategy, report, changed, remaining, unmatched, escalated⟩ := r
  cases none
  simp only [swept, List.filter_nil, List.append_nil]

/-- The next answer is one of those that all members get. -/
theorem swept_note (waiting : r.remaining = m :: rest) (services : Services) :
    (r.note (services.checkFilter (request r.category m.domain))).swept services = r.swept services := by
  obtain ⟨category, strategy, report, changed, remaining, unmatched, escalated⟩ := r
  cases waiting
  show swept (if listed services category m then _ else _) services = _
  cases answer : listed services category m with
  | true => simp [swept, answer]
  | false => simp [swept, answer]

theorem note_remaining (waiting : r.remaining = m :: rest) (answer : Except Failure FilterResponse) :
    (r.note answer).remaining = rest := by
  unfold note
  rw [waiting]
  dsimp only
  split <;> rfl

theorem note_changed (r : Refresh) (answer : Except Failure FilterResponse) :
    (r.note answer).changed = r.changed := by
  unfold note
  split
  · rfl
  · split <;> rfl

end Refresh

namespace State

open Database (execute)

variable {s u : State} {around : Surroundings} {category : String}

/-! ### The loop over the members -/

theorem ask_nil (s : State) : s.ask [] = s := by
  unfold ask
  rw [List.append_nil]

theorem ask_ask (s : State) (first second : List Question) :
    (s.ask first).ask second = s.ask (first ++ second) := by
  unfold ask
  rw [List.append_assoc]

/-- **Without a shutdown all members are checked**, and the refresh is concluded. -/
theorem checkMembers_through (around : Surroundings) (fuel : Nat) :
    ∀ (s : State) (r : Refresh), r.remaining.length = fuel →
      (∀ m ∈ r.remaining, around.stopped (.member r.category m.domain) = false) →
      checkMembers around fuel s r =
        let concluded := (s.ask r.questions).concludeRefresh around.services (r.swept around.services)
        (concluded.1, concluded.2.map some) := by
  induction fuel with
  | zero =>
    intro s r count going
    have none := List.eq_nil_of_length_eq_zero count
    rw [checkMembers_done none, Refresh.swept_done none, Refresh.questions, none, List.map_nil, ask_nil]
  | succ fuel ih =>
    intro s r count going
    rcases waiting : r.remaining with _ | ⟨m, rest⟩
    · rw [waiting] at count
      cases count
    · let answer := around.services.checkFilter (Refresh.request r.category m.domain)
      have here : ¬ around.stopped (.member r.category m.domain) = true :=
        Bool.eq_false_iff.mp (going m (waiting ▸ List.mem_cons_self))
      have left : (r.note answer).remaining = rest := Refresh.note_remaining waiting answer
      have same : (r.note answer).category = r.category := note_category r answer
      have asked : (s.ask [.filter (Refresh.request r.category m.domain)]).ask
          (r.note answer).questions = s.ask r.questions := by
        rw [ask_ask, Refresh.questions, Refresh.questions, left, same, waiting]
        rfl
      rw [checkMembers_next waiting, if_neg here, ih, asked, Refresh.swept_note waiting]
      · rw [left]
        rw [waiting] at count
        exact Nat.succ.inj count
      · intro other listed
        rw [left] at listed
        rw [same]
        exact going other (waiting ▸ List.mem_cons_of_mem _ listed)

/-- **A shutdown at one of the members gives the refresh up**, after the checks of those before it. -/
theorem checkMembers_stopped (around : Surroundings) (fuel : Nat) :
    ∀ (s : State) (r : Refresh), r.remaining.length = fuel →
      (∃ m ∈ r.remaining, around.stopped (.member r.category m.domain) = true) →
      checkMembers around fuel s r =
        ((s.ask (r.questionsBefore around)).notifyIf r.changed r.category, .ok none) := by
  induction fuel with
  | zero =>
    rintro s r count ⟨m, listed, -⟩
    rw [List.eq_nil_of_length_eq_zero count] at listed
    cases listed
  | succ fuel ih =>
    rintro s r count ⟨m, listed, stopped⟩
    rcases waiting : r.remaining with _ | ⟨first, rest⟩
    · rw [waiting] at count
      cases count
    · rw [waiting] at listed count
      rw [checkMembers_next waiting, Refresh.questionsBefore, waiting, List.takeWhile_cons]
      cases here : around.stopped (.member r.category first.domain) with
      | true =>
        rw [if_pos rfl, Bool.not_true, if_neg Bool.false_ne_true, List.map_nil, ask_nil]
        rfl
      | false =>
        let answer := around.services.checkFilter (Refresh.request r.category first.domain)
        have left : (r.note answer).remaining = rest := Refresh.note_remaining waiting answer
        have same : (r.note answer).category = r.category := note_category r answer
        have later : m ∈ rest := by
          rcases List.mem_cons.mp listed with rfl | later
          · rw [here] at stopped
            cases stopped
          · exact later
        rw [if_neg Bool.false_ne_true, ih _ _ (by rw [left]; exact Nat.succ.inj count)
          ⟨m, left.symm ▸ later, same.symm ▸ stopped⟩, Refresh.questionsBefore, left, same,
          Refresh.note_changed, ask_ask, Bool.not_false, if_pos rfl]
        rfl

/-! ### The sets afterwards -/

theorem pair_removeMembers (healthy : s.database.Healthy) (category : String)
    (members : List Member) :
    (s.removeMembers (setKeys category) members).1.database.pair category =
      (s.database.pair category).removeAll members := by
  refine pair_foldl Prod.fst _ Database.Healthy category SetPair.remove members (s, false)
    (fun at_ m _ held => ?_) healthy
  have gone : (at_.1.apply (Database.removeFrom category m)).1.database =
      at_.1.database.write (.remove category m) := by
    rw [apply_fst]
    exact congrArg Prod.snd (Database.execute_removeFrom (held.accepts m.domain) category)
  refine ⟨?_, ?_⟩
  · show Database.Healthy (at_.1.apply (Database.removeFrom category m)).1.database
    rw [gone]
    exact held.write _
  · show (at_.1.apply (Database.removeFrom category m)).1.database.pair category = _
    rw [gone]
    exact Database.pair_remove _ category m

/-- What the end of a refresh removes. -/
def dropped (services : Services) (style : Style) (r : Refresh) : List Member :=
  match (consultMembers services style r).2 with
  | .error _ => []
  | .ok confirmation => r.unmatched ++ r.removals confirmation

theorem pair_concludeRefresh (healthy : s.database.Healthy) (services : Services) (r : Refresh) :
    (s.concludeRefresh services r).1.database.pair r.category =
      (s.database.pair r.category).removeAll (dropped services (s.registry.style r.category) r) := by
  unfold dropped
  cases answer : (consultMembers services (s.registry.style r.category) r).2 with
  | error cause =>
    rw [concludeRefresh_failed answer, database_notifyIf]
    rfl
  | ok confirmation =>
    let asked := s.ask (consultMembers services (s.registry.style r.category) r).1
    let first := (asked.removeMembers (setKeys r.category) r.unmatched).1
    have sound : first.database.Healthy :=
      (removeMembers_reaches asked r.category r.unmatched).trail.healthy healthy
    have unlisted : first.database.pair r.category =
        (s.database.pair r.category).removeAll r.unmatched := pair_removeMembers (s := asked) healthy _ _
    have refuted := pair_removeMembers sound r.category (r.removals confirmation)
    rw [concludeRefresh_answered answer, database_notifyIf]
    refine refuted.trans ?_
    rw [unlisted]
    exact (List.foldl_append ..).symm

/-- The members that a refresh of a category removes: none if it is given up or the source fails. -/
def removed (s : State) (around : Surroundings) (category : String) : List Member :=
  let kept := s.kept category
  let style := s.registry.style category
  let listed := kept.filter (Refresh.listed around.services category)
  if kept.any fun m => around.stopped (.member category m.domain) then []
  else
    match (Confirm.confirm around.services category (.select (s.registry.strategy category) style)
      style (listed.map (·.domain))).2 with
    | .error _ => []
    | .ok confirmation =>
      kept.filter (!Refresh.listed around.services category ·) ++
        listed.filter fun m =>
          !confirmation.failed.contains m.domain && Refresh.drifted confirmation m

theorem kept_of_no_members (none : s.memberCount category = 0) : s.kept category = [] := by
  have hits : (s.database.pair category .hit).members = [] :=
    List.eq_nil_of_length_eq_zero (Nat.eq_zero_of_add_eq_zero_right none)
  have passthroughs : (s.database.pair category .passthrough).members = [] :=
    List.eq_nil_of_length_eq_zero (Nat.eq_zero_of_add_eq_zero_left none)
  unfold kept
  rw [hits, passthroughs]
  rfl

theorem removed_of_no_members (none : s.memberCount category = 0) (around : Surroundings) :
    s.removed around category = [] := by
  unfold removed
  rw [kept_of_no_members none]
  rfl

/-- Checking the members of a refresh that has begun takes out the removed ones. -/
theorem pair_checkMembers {t : State} (healthy : t.database.Healthy) (same : t.registry = s.registry)
    (around : Surroundings) (category : String) :
    (checkMembers around (s.kept category).length t (s.begun around.clock category)).1.database.pair
        category =
      (t.database.pair category).removeAll (s.removed around category) := by
  let begun := s.begun around.clock category
  cases given : (s.kept category).any fun m => around.stopped (.member category m.domain) with
  | true =>
    rw [checkMembers_stopped around (s.kept category).length t begun rfl (List.any_eq_true.mp given),
      removed, if_pos given, database_notifyIf]
    rfl
  | false =>
    have through : ∀ m ∈ s.kept category, around.stopped (.member category m.domain) = false :=
      fun m listed => Bool.eq_false_iff.mpr (List.any_eq_false.mp given m listed)
    have last := pair_concludeRefresh (s := t.ask begun.questions) healthy around.services
      (begun.swept around.services)
    rw [checkMembers_through around (s.kept category).length t begun rfl through, removed,
      if_neg (Bool.eq_false_iff.mp given)]
    refine last.trans (congrArg _ ?_)
    rw [show (t.ask begun.questions).registry = s.registry from same]
    rfl

/-- **The sets after a refresh**, however it ended: the excluded hits are passthroughs, and the removed
members have left their sets. -/
theorem pair_refresh (healthy : s.database.Healthy) (going : s.Refreshable around category) :
    (s.refresh around category).1.database.pair category =
      ((s.database.pair category).recordAll (around.clock (.refresh category))
        ((s.excludedHits category).map (⟨·, .passthrough⟩))).removeAll
          (s.removed around category) := by
  have reached := migrated_reaches s around.clock category
  rw [← pair_migrated fun _ _ => healthy.accepts _]
  by_cases none : s.memberCount category = 0
  · rw [refresh_nothing going (Or.inr none), migrated_nothing (Or.inr none),
      removed_of_no_members none]
    rfl
  · rw [refresh_checks going healthy.present none]
    exact pair_checkMembers (reached.trail.healthy healthy) reached.registry around category

/-- The former passthroughs of a category that a refresh does not remove. -/
def spared (s : State) (around : Surroundings) (category : String) : List String :=
  (s.database.pair category .passthrough).members.filter fun name =>
    !(s.removed around category).contains ⟨name, .passthrough⟩

theorem remaining_refresh (healthy : s.database.Healthy) (going : s.Refreshable around category) :
    (s.database.pair category).remaining ((s.refresh around category).1.database.pair category) =
      s.spared around category := by
  unfold SetPair.remaining spared
  rw [pair_refresh healthy going]
  refine List.filter_congr fun name listed => ?_
  have here : (s.database.pair category .passthrough).contains name = true :=
    SortedSet.contains_iff.mpr listed
  rw [SetPair.contains_removeAll, SetPair.contains_recordAll, SetPair.lastSide?_map]
  by_cases excluded : name ∈ s.excludedHits category
  · rw [if_pos excluded]
    rfl
  · rw [if_neg excluded]
    dsimp only
    rw [here, Bool.true_and]

theorem Turn.spared_eq (turn : Turn s u category) (around : Surroundings) :
    u.spared around category = s.spared around category := by
  unfold spared removed kept
  rw [turn.pair, turn.registry]

end State

end CategoryFilter
