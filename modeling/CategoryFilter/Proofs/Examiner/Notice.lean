/-
**What a detection and a confirmation send, and what they change.**

A notice about a category is sent when the flag of an operation says that a membership changed. The flag
is put together from the answers of the store, so it is compared with the members before and after:

* `notified_detect`, `sameMembers_detect`: a detection changes no member and sends nothing.
* `sameMembers_confirmCategory`: the confirmation of a category that reports no change made none.
* `notified_confirmQueued`: a confirmation sends a notice for each category that it reports as changed,
  in ascending order, and no other category has changed.
-/

import CategoryFilter.Proofs.Examiner.Drift
import CategoryFilter.Proofs.Examiner.Run
import CategoryFilter.Proofs.Store.Membership

namespace CategoryFilter.State

open Database (Trail execute)
open Category (setKeys)

variable {s : State} {category : String}

/-! ### What the parts of an operation send -/

/-- Steps that keep a view keep it one after another. -/
theorem foldl_keeps {σ β γ : Type} (view : σ → γ) (step : σ → β → σ) (items : List β) (start : σ)
    (each : ∀ x b, view (step x b) = view x) : view (items.foldl step start) = view start := by
  induction items generalizing start with
  | nil => rfl
  | cons b rest ih => exact (ih (step start b)).trans (each start b)

theorem notified_apply (s : State) (action : Action Bool) :
    (s.apply action).1.notified = s.notified := by
  rw [apply_fst]

theorem notified_notifyIf (s : State) (changed : Bool) (category : String) :
    (s.notifyIf changed category).notified = s.notified ++ if changed then [category] else [] := by
  unfold notifyIf
  split
  · rfl
  · rw [List.append_nil]

/-! ### Detection -/

theorem notified_examineMatch (s : State) (score : Score) (category pattern origin : String) :
    (s.examineMatch score category pattern origin).1.notified = s.notified := by
  have recalled := notified_apply s (recallMatch (setKeys category) score pattern origin)
  unfold examineMatch
  split
  · rfl
  · revert recalled
    rcases s.apply (recallMatch (setKeys category) score pattern origin) with ⟨t, _ | _⟩
    · exact id
    · exact id

theorem notified_receiveFilter (s : State) (clock : Clock) (origin : String)
    (answer : Except Failure FilterResponse) :
    (s.receiveFilter clock origin answer).1.notified = s.notified := by
  unfold receiveFilter
  split
  · refine foldl_keeps (fun found : State × Nat => found.1.notified) (examineResult clock origin) _
      (s, 0) fun found r => ?_
    unfold examineResult
    split
    · exact notified_examineMatch _ _ _ _ _
    · rfl
  · rfl

/-- **A detection sends nothing.** -/
theorem notified_detect (s : State) (around : Surroundings) (origin : String) :
    (s.detect around origin).1.notified = s.notified := by
  have admitted : (s.admits origin around.instant).1.notified = s.notified := by
    unfold admits
    split <;> rfl
  unfold detect
  rcases step : s.admits origin around.instant with ⟨t, _ | _⟩
  · rwa [step] at admitted
  · rw [step] at admitted
    exact (notified_receiveFilter _ _ _ _).trans admitted

/-- A new score for a name that is in one set only changes no member. -/
theorem sameMembers_recalls {registry : Registry} {before after : Database}
    (trail : Trail (Recalls registry) before after)
    (held : (before.pair category).Exclusive) :
    (before.pair category).SameMembers (after.pair category) := by
  have both := trail.preserves
    (P := fun db => (db.pair category).Exclusive ∧
      (before.pair category).SameMembers (db.pair category))
    (fun db w allowed now => ?_) ⟨held, .refl _⟩
  · exact both.2
  · obtain ⟨-, here, -⟩ := allowed
    next other m score =>
    rw [Database.pair_write]
    split
    · next same =>
      have same : other = category := same
      subst same
      exact ⟨SetPair.exclusive_after now.1 _,
        now.2.trans (SetPair.sameMembers_record (SetPair.gains_of_exclusive now.1 here))⟩
    · exact now

/-- **A detection changes no member.** -/
theorem sameMembers_detect (held : (s.database.pair category).Exclusive) (around : Surroundings)
    (origin : String) :
    (s.database.pair category).SameMembers
      ((s.detect around origin).1.database.pair category) :=
  sameMembers_recalls (detect_reaches s around origin).trail held

/-! ### Confirmation -/

theorem feed_outcome (clock : Clock) (ruling : Ruling) (pattern : String) (at_ : Settling) :
    (feed clock ruling pattern at_).outcome = at_.outcome ∧
      (feed clock ruling pattern at_).state.notified = at_.state.notified := by
  unfold feed
  split
  · exact ⟨rfl, rfl⟩
  · exact ⟨rfl, rfl⟩

theorem addFailed_changed (o : Outcome) (kept : Bool) : (o.addFailed kept).changed = o.changed := by
  unfold Outcome.addFailed
  split <;> rfl

theorem notified_settle (clock : Clock) (ruling : Ruling) (at_ : Settling) (p : Pending) :
    (settle clock ruling at_ p).state.notified = at_.state.notified := by
  cases failed : ruling.confirmation.failed.contains (ruling.source.key p.1) with
  | true => rw [settle_failed clock failed]; rfl
  | false =>
    cases hit : ruling.isHit p.1 with
    | true =>
      rw [settle_hit clock failed hit, (feed_outcome _ _ _ _).2]
      exact notified_apply _ _
    | false =>
      rw [settle_passthrough clock failed hit]
      exact notified_apply _ _

/-- Settling a candidate adds to the flag what its recording changes. -/
theorem changed_settle (clock : Clock) (ruling : Ruling) (at_ : Settling) (p : Pending)
    (healthy : at_.state.database.Healthy) :
    (settle clock ruling at_ p).outcome.changed = (at_.outcome.changed ||
      ((ruling.recording? p.1).toList.any (at_.state.database.pair ruling.category).gains)) := by
  have added : ∀ m : Member, (at_.state.apply (Database.addTo ruling.category m ruling.score)).2 =
      (at_.state.database.pair ruling.category).gains m := fun m =>
    apply_snd (congrArg Prod.fst (Database.execute_addTo (healthy.accepts m.domain) _ _))
  cases failed : ruling.confirmation.failed.contains (ruling.source.key p.1) with
  | true =>
    have kept : (settle clock ruling at_ p).outcome.changed = at_.outcome.changed := by
      unfold settle
      rw [if_pos failed]
      exact addFailed_changed _ _
    rw [kept, Ruling.recording?, if_pos failed]
    exact (Bool.or_false _).symm
  | false =>
    have answered := Bool.eq_false_iff.mp failed
    cases hit : ruling.isHit p.1 with
    | true =>
      rw [settle_hit clock failed hit, (feed_outcome _ _ _ _).1, Ruling.recording?, if_neg answered,
        if_pos hit]
      show (_ || (at_.state.apply (Database.addTo _ ⟨p.1.pattern, .hit⟩ _)).2) = _
      rw [added]
      simp
    | false =>
      have refuted := Bool.eq_false_iff.mp hit
      have noted : (settle clock ruling at_ p).outcome.changed = (at_.outcome.changed ||
          (at_.state.apply (Database.addTo ruling.category ⟨p.1.origin, .passthrough⟩
            ruling.score)).2) := by
        unfold settle
        rw [if_neg answered, if_neg refuted]
        rfl
      rw [noted, added, Ruling.recording?, if_neg answered, if_neg refuted]
      simp

/-- Settling a candidate that raises no flag changes no member. -/
theorem sameMembers_settle (clock : Clock) (ruling : Ruling) (at_ : Settling) (p : Pending)
    (healthy : at_.state.database.Healthy)
    (quiet : (settle clock ruling at_ p).outcome.changed = false) :
    at_.outcome.changed = false ∧ (at_.state.database.pair ruling.category).SameMembers
      ((settle clock ruling at_ p).state.database.pair ruling.category) := by
  rw [changed_settle clock ruling at_ p healthy, Bool.or_eq_false_iff] at quiet
  refine ⟨quiet.1, ?_⟩
  rw [(pair_settle clock ruling at_ p healthy).2]
  cases entry : ruling.recording? p.1 with
  | none => exact .refl _
  | some m =>
    have none : (at_.state.database.pair ruling.category).gains m = false := by
      simpa [entry] using quiet.2
    exact SetPair.sameMembers_record none

/-- Candidates whose settling raised no flag changed no member. -/
theorem sameMembers_settles (clock : Clock) (ruling : Ruling) (items : List Pending) :
    ∀ at_ : Settling, at_.state.database.Healthy →
      (items.foldl (settle clock ruling) at_).outcome.changed = false →
      at_.outcome.changed = false ∧ (at_.state.database.pair ruling.category).SameMembers
        ((items.foldl (settle clock ruling) at_).state.database.pair ruling.category) := by
  induction items with
  | nil => exact fun at_ _ quiet => ⟨quiet, .refl _⟩
  | cons p rest ih =>
    intro at_ healthy quiet
    obtain ⟨first, later⟩ := ih (settle clock ruling at_ p)
      (pair_settle clock ruling at_ p healthy).1 quiet
    obtain ⟨start, here⟩ := sameMembers_settle clock ruling at_ p healthy first
    exact ⟨start, here.trans later⟩

theorem sameMembers_trimSets (healthy : s.database.Healthy)
    (quiet : (s.trimSets category).2 = false) :
    (s.database.pair category).SameMembers ((s.trimSets category).1.database.pair category) := by
  obtain ⟨count, after, answer, kept⟩ :=
    Database.trim_answer healthy category s.config.maxSetSize.toNat
  have answered : (s.trimSets category).2 = (count != 0) := by
    refine apply_snd ?_
    rw [Database.execute_bind_ok answer]
    rfl
  rw [answered, bne_eq_false_iff_eq] at quiet
  rw [database_trimSets, answer]
  exact .of_eq (kept quiet)

theorem sameMembers_settleAll (healthy : s.database.Healthy) (clock : Clock) (ruling : Ruling)
    (lists : ruling.exclusions = s.registry.exclusions ruling.category) (items : List Pending)
    (quiet : (s.settleAll clock ruling items).2.changed = false) :
    (s.database.pair ruling.category).SameMembers
      ((s.settleAll clock ruling items).1.database.pair ruling.category) := by
  let end_ := items.foldl (settle clock ruling) ⟨s, .empty, []⟩
  have parts : (end_.outcome.changed || (end_.state.trimSets ruling.category).2) = false := quiet
  rw [Bool.or_eq_false_iff] at parts
  have sound : end_.state.database.Healthy :=
    (settled_reaches s clock ruling lists items).trail.healthy healthy
  have recorded := (sameMembers_settles clock ruling items ⟨s, .empty, []⟩ healthy parts.1).2
  exact recorded.trans (sameMembers_trimSets sound parts.2)

theorem database_requeueAll (s : State) (items : List Pending) :
    (s.requeueAll items).1.database = s.database :=
  foldl_keeps (fun done : State × Outcome => done.1.database) _ items (s, .empty) fun _ _ => rfl

theorem pair_requeueAll (s : State) (items : List Pending) (category : String) :
    (s.requeueAll items).1.database.pair category = s.database.pair category :=
  congrArg (·.pair category) (database_requeueAll s items)

/-- **A confirmation that reports no change of a category made none.** -/
theorem sameMembers_confirmCategory (healthy : s.database.Healthy) (services : Services)
    (clock : Clock) (items : List Pending)
    (quiet : (s.confirmCategory services clock category items).2.changed = false) :
    (s.database.pair category).SameMembers
      ((s.confirmCategory services clock category items).1.database.pair category) := by
  cases recorded : (s.registry.strategy category).updateConfirmSet with
  | false =>
    rw [confirmCategory_ignored recorded]
    exact .refl _
  | true =>
    cases answer : (s.consult services category items).2 with
    | error cause =>
      rw [confirmCategory_failed recorded answer]
      exact .of_eq (pair_requeueAll _ items category)
    | ok confirmation =>
      rw [confirmCategory_answered recorded answer] at quiet ⊢
      let asked := s.ask (s.consult services category items).1
      exact sameMembers_settleAll (s := asked) healthy clock (s.ruling clock category confirmation)
        rfl items quiet

theorem notified_settleAll (s : State) (clock : Clock) (ruling : Ruling) (items : List Pending) :
    (s.settleAll clock ruling items).1.notified = s.notified := by
  have settled := foldl_keeps (fun at_ : Settling => at_.state.notified) (settle clock ruling) items
    ⟨s, .empty, []⟩ fun at_ p => notified_settle clock ruling at_ p
  exact (notified_apply _ _).trans settled

theorem notified_requeueAll (s : State) (items : List Pending) :
    (s.requeueAll items).1.notified = s.notified :=
  foldl_keeps (fun at_ : State × Outcome => at_.1.notified) _ items (s, .empty) fun _ _ => rfl

theorem notified_confirmCategory (s : State) (services : Services) (clock : Clock)
    (category : String) (items : List Pending) :
    (s.confirmCategory services clock category items).1.notified = s.notified := by
  cases recorded : (s.registry.strategy category).updateConfirmSet with
  | false => rw [confirmCategory_ignored recorded]
  | true =>
    cases answer : (s.consult services category items).2 with
    | error cause =>
      rw [confirmCategory_failed recorded answer]
      exact notified_requeueAll _ items
    | ok confirmation =>
      rw [confirmCategory_answered recorded answer]
      exact notified_settleAll _ clock _ items

/-- What a confirmation of some groups sends: notices for some of their categories, which it reports as
changed, and no other category has changed. -/
theorem notified_confirmGroups (services : Services) (clock : Clock)
    (groups : List (String × List Pending)) :
    ∀ start : State × ConfirmReport, start.1.database.Healthy →
      let last := groups.foldl (confirmGroup services clock) start
      ∃ sent, last.1.notified = start.1.notified ++ sent ∧
        last.2.changed = start.2.changed ++ sent ∧ sent.Sublist (groups.map Prod.fst) ∧
        ∀ category, category ∉ sent →
          (start.1.database.pair category).SameMembers (last.1.database.pair category) := by
  induction groups with
  | nil => exact fun start _ => ⟨[], by simp, by simp, List.Sublist.slnil, fun _ _ => .refl _⟩
  | cons group rest ih =>
    intro start healthy last
    let confirmed := start.1.confirmCategory services clock group.1 group.2
    let next := confirmGroup services clock start group
    have reached := confirmGroup_reaches services clock start group
    obtain ⟨later, notices, report, listed, silent⟩ := ih next (reached.trail.healthy healthy)
    let here := if confirmed.2.changed then [group.1] else []
    have sentHere : next.1.notified = start.1.notified ++ here :=
      (notified_notifyIf confirmed.1 confirmed.2.changed group.1).trans
        (congrArg (· ++ here) (notified_confirmCategory start.1 services clock group.1 group.2))
    have reportHere : next.2.changed = start.2.changed ++ here := by
      show (if confirmed.2.changed then start.2.changed ++ [group.1] else start.2.changed) = _
      by_cases changed : confirmed.2.changed = true <;> simp [here, changed]
    refine ⟨here ++ later, ?_, ?_, ?_, fun category unsent => ?_⟩
    · show (rest.foldl _ next).1.notified = _
      rw [notices, sentHere, List.append_assoc]
    · show (rest.foldl _ next).2.changed = _
      rw [report, reportHere, List.append_assoc]
    · show (here ++ later).Sublist (group.1 :: rest.map Prod.fst)
      by_cases changed : confirmed.2.changed = true
      · simpa [here, changed] using listed
      · simpa [here, changed] using listed.cons group.1
    · rw [List.mem_append, not_or] at unsent
      refine SetPair.SameMembers.trans ?_ (silent category unsent.2)
      by_cases own : group.1 = category
      · subst own
        have quiet : confirmed.2.changed = false := by
          refine Bool.eq_false_iff.mpr fun changed => unsent.1 ?_
          simp [here, changed]
        have same := sameMembers_confirmCategory healthy services clock group.2 quiet
        exact same.trans (.of_eq (congrArg (fun db : Database => db.pair group.1)
          (database_notifyIf _ _ _)))
      · refine .of_eq (reached.trail.pair_eq fun _ _ allowed same => own ?_)
        exact (category_of_confirms allowed).symm.trans same

/-- **A confirmation sends a notice for each category that it reports as changed**, in ascending order,
and no other category has changed. -/
theorem notified_confirmQueued (healthy : s.database.Healthy) (services : Services) (clock : Clock) :
    let last := s.confirmQueued services clock
    last.1.notified = s.notified ++ last.2.changed ∧ last.2.changed.Pairwise (· < ·) ∧
      ∀ category, category ∉ last.2.changed →
        (s.database.pair category).SameMembers (last.1.database.pair category) := by
  intro last
  obtain ⟨sent, notices, report, listed, silent⟩ := notified_confirmGroups services clock
    (groupByCategory s.session.queue.pending) s.drained healthy
  have reported : last.2.changed = sent := report
  rw [reported]
  exact ⟨notices, (grouped_groupByCategory _).ascending.sublist listed, silent⟩

end CategoryFilter.State
