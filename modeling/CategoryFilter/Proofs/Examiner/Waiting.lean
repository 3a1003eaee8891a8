/-
**Which candidates wait for confirmation.**

Only a detection adds a candidate to the queue, and only of an active category. A confirmation takes all
of them and puts some of them back; the other calls leave the queue alone:

* `waits_detect`, `waits_confirm`, `session_refresh`, `session_deactivate`: the four kinds of calls.
* `waits_perform`: so a candidate that waits after a call waited before it or is of an active category.
-/

import CategoryFilter.Proofs.Examiner.RefreshNotice

namespace CategoryFilter

namespace Queue

variable {q : Queue} {c x : Candidate}

/-- A candidate waits, after however many failed attempts. -/
def Holds (q : Queue) (c : Candidate) : Prop :=
  ∃ attempts, (c, attempts) ∈ q.pending

theorem Holds.of_enqueue (held : (q.enqueue c).1.Holds x) : q.Holds x ∨ x = c := by
  unfold enqueue at held
  split at held
  · exact Or.inl held
  · obtain ⟨attempts, there⟩ := held
    rcases List.mem_append.mp there with old | new
    · exact Or.inl ⟨attempts, old⟩
    · exact Or.inr (congrArg Prod.fst (List.mem_singleton.mp new))

theorem Holds.of_raise {attempts : UInt32} (held : (q.raise c attempts).Holds x) :
    q.Holds x ∨ x = c := by
  obtain ⟨later, there⟩ := held
  unfold raise at there
  split at there
  · obtain ⟨p, old, same⟩ := List.mem_map.mp there
    split at same
    · exact Or.inr (congrArg Prod.fst same).symm
    · exact Or.inl ⟨later, same ▸ old⟩
  · rcases List.mem_append.mp there with old | new
    · exact Or.inl ⟨later, old⟩
    · exact Or.inr (congrArg Prod.fst (List.mem_singleton.mp new))

theorem Holds.of_requeue {attempts : UInt32} (held : (q.requeue c attempts).1.Holds x) :
    q.Holds x ∨ x = c := by
  unfold requeue at held
  dsimp only at held
  split at held
  · exact Or.inl held
  · exact held.of_raise

end Queue

namespace State

open Category (setKeys)

variable {s : State} {x : Candidate}

/-- A candidate is in the queue. -/
def Waits (s : State) (c : Candidate) : Prop :=
  s.session.queue.Holds c

theorem session_apply (s : State) (action : Action Bool) : (s.apply action).1.session = s.session := by
  rw [apply_fst]

theorem session_notifyIf (s : State) (changed : Bool) (category : String) :
    (s.notifyIf changed category).session = s.session := by
  unfold notifyIf
  split <;> rfl

/-! ### Detection -/

/-- Examining a match leaves the queue alone or adds a candidate of its category. -/
theorem queue_examineMatch (s : State) (score : Score) (category pattern origin : String) :
    (s.examineMatch score category pattern origin).1.session.queue = s.session.queue ∨
      (s.examineMatch score category pattern origin).1.session.queue =
        (s.session.queue.enqueue ⟨category, pattern, origin⟩).1 := by
  have same := session_apply s (recallMatch (setKeys category) score pattern origin)
  unfold examineMatch
  split
  · exact Or.inl rfl
  · revert same
    rcases s.apply (recallMatch (setKeys category) score pattern origin) with ⟨t, _ | _⟩
    · exact fun same => Or.inl (congrArg Session.queue same)
    · intro same
      have same : t.session = s.session := same
      refine Or.inr ?_
      rw [← same]
      rfl

/-- What waits after an examination waited before or is of the examined category. -/
theorem waits_examineMatch {score : Score} {category pattern origin : String}
    (waits : (s.examineMatch score category pattern origin).1.Waits x) :
    s.Waits x ∨ x.category = category := by
  unfold Waits at waits
  rcases queue_examineMatch s score category pattern origin with same | added
  · rw [same] at waits
    exact Or.inl waits
  · rw [added] at waits
    exact waits.of_enqueue.imp_right (congrArg Candidate.category)

theorem waits_receiveFilter {clock : Clock} {origin : String}
    {answer : Except Failure FilterResponse} (waits : (s.receiveFilter clock origin answer).1.Waits x) :
    s.Waits x ∨ s.registry.isActive x.category = true := by
  unfold receiveFilter at waits
  split at waits
  · revert waits
    refine And.right (a := _ = s.registry) (List.foldlRecOn (motive := fun found : State × Nat =>
        found.1.registry = s.registry ∧
          (found.1.Waits x → s.Waits x ∨ s.registry.isActive x.category = true))
      _ (examineResult clock origin) ⟨rfl, Or.inl⟩ fun found kept r _ => ?_)
    obtain ⟨same, earlier⟩ := kept
    unfold examineResult
    split
    · next category matched =>
      have active := isActive_of_matchedCategory? matched
      have reached := examineMatch_reaches active (clock (.result r.2)) (r.1.pattern origin) origin
      refine ⟨reached.registry.trans same, fun waits => ?_⟩
      rcases waits_examineMatch waits with before | own
      · exact earlier before
      · rw [own, ← same]
        exact Or.inr active
    · exact ⟨same, earlier⟩
  · exact Or.inl waits

/-- **A detection adds candidates of active categories only.** -/
theorem waits_detect {around : Surroundings} {origin : String}
    (waits : (s.detect around origin).1.Waits x) :
    s.Waits x ∨ s.registry.isActive x.category = true := by
  have admitted : (s.admits origin around.instant).1.session.queue = s.session.queue ∧
      (s.admits origin around.instant).1.registry = s.registry := by
    unfold admits
    split <;> exact ⟨rfl, rfl⟩
  unfold detect at waits
  rcases step : s.admits origin around.instant with ⟨t, _ | _⟩
  · rw [step] at admitted waits
    have waits : t.session.queue.Holds x := waits
    rw [show t.session.queue = s.session.queue from admitted.1] at waits
    exact Or.inl waits
  · rw [step] at admitted waits
    let request := detectionRequest origin
    have waits : ((t.ask [.filter request]).receiveFilter around.clock origin
        (around.services.checkFilter request)).1.Waits x := waits
    have before : t.session.queue.Holds x ∨ t.registry.isActive x.category = true :=
      waits_receiveFilter (s := t.ask [.filter request]) waits
    rwa [show t.session.queue = s.session.queue from admitted.1,
      show t.registry = s.registry from admitted.2] at before

/-! ### Confirmation -/

theorem session_feed (clock : Clock) (ruling : Ruling) (pattern : String) (at_ : Settling) :
    (feed clock ruling pattern at_).state.session = at_.state.session := by
  unfold feed
  split <;> rfl

/-- Settling a candidate puts it back or leaves the queue alone. -/
theorem waits_settle {clock : Clock} {ruling : Ruling} {at_ : Settling} {p : Pending}
    (waits : (settle clock ruling at_ p).state.Waits x) : at_.state.Waits x ∨ x = p.1 := by
  unfold Waits at waits
  cases failed : ruling.confirmation.failed.contains (ruling.source.key p.1) with
  | true =>
    rw [settle_failed clock failed] at waits
    exact Queue.Holds.of_requeue waits
  | false =>
    cases hit : ruling.isHit p.1 with
    | true =>
      rw [settle_hit clock failed hit, session_feed] at waits
      have waits : (at_.state.apply _).1.session.queue.Holds x := waits
      rw [session_apply] at waits
      exact Or.inl waits
    | false =>
      rw [settle_passthrough clock failed hit, session_apply] at waits
      exact Or.inl waits

theorem waits_settleAll {clock : Clock} {ruling : Ruling} {items : List Pending}
    (waits : (s.settleAll clock ruling items).1.Waits x) : s.Waits x ∨ ∃ p ∈ items, x = p.1 := by
  have settled : (s.settled clock ruling items).Waits x := by
    have waits : ((s.settled clock ruling items).trimSets ruling.category).1.session.queue.Holds x :=
      waits
    unfold trimSets at waits
    rwa [session_apply] at waits
  revert settled
  refine List.foldlRecOn (motive := fun at_ : Settling =>
      at_.state.Waits x → s.Waits x ∨ ∃ p ∈ items, x = p.1)
    items (settle clock ruling) Or.inl fun at_ earlier p listed waits => ?_
  rcases waits_settle waits with before | same
  · exact earlier before
  · exact Or.inr ⟨p, listed, same⟩

theorem waits_requeueAll {items : List Pending} (waits : (s.requeueAll items).1.Waits x) :
    s.Waits x ∨ ∃ p ∈ items, x = p.1 := by
  revert waits
  refine List.foldlRecOn (motive := fun at_ : State × Outcome =>
      at_.1.Waits x → s.Waits x ∨ ∃ p ∈ items, x = p.1)
    items _ Or.inl fun at_ earlier p listed waits => ?_
  have waits : (at_.1.session.queue.requeue p.1 p.2).1.Holds x := waits
  rcases waits.of_requeue with before | same
  · exact earlier before
  · exact Or.inr ⟨p, listed, same⟩

theorem waits_confirmCategory {services : Services} {clock : Clock} {category : String}
    {items : List Pending} (waits : (s.confirmCategory services clock category items).1.Waits x) :
    s.Waits x ∨ ∃ p ∈ items, x = p.1 := by
  cases recorded : (s.registry.strategy category).updateConfirmSet with
  | false =>
    rw [confirmCategory_ignored recorded] at waits
    exact Or.inl waits
  | true =>
    cases answer : (s.consult services category items).2 with
    | error cause =>
      rw [confirmCategory_failed recorded answer] at waits
      exact waits_requeueAll (s := s.ask _) waits
    | ok confirmation =>
      rw [confirmCategory_answered recorded answer] at waits
      exact waits_settleAll (s := s.ask _) waits

/-- **A confirmation puts back what it took**, and adds nothing. -/
theorem waits_confirm {services : Services} {clock : Clock}
    (waits : (s.confirmQueued services clock).1.Waits x) : s.Waits x := by
  let batch := s.session.queue.pending
  rw [confirmQueued_fst] at waits
  revert waits
  refine List.foldlRecOn (motive := fun so_far : State × ConfirmReport =>
      so_far.1.Waits x → s.Waits x)
    (groupByCategory batch) (confirmGroup services clock) ?_ fun so_far earlier group listed waits => ?_
  · rintro ⟨attempts, there⟩
    cases there
  · unfold confirmGroup at waits
    unfold Waits at waits
    rw [session_notifyIf] at waits
    rcases waits_confirmCategory waits with before | ⟨p, there, rfl⟩
    · exact earlier before
    · have exact := ((grouped_groupByCategory batch).exact group listed).1
      rw [exact] at there
      exact ⟨p.2, mem_sortPending.mp (List.mem_filter.mp there).1⟩

/-! ### Refresh and deactivation -/

theorem session_moveExcluded (s : State) (keys : Category.SetKeys) (score : Score)
    (names : List String) : (s.moveExcluded keys score names).1.session = s.session :=
  foldl_keeps (fun at_ : State × Bool => at_.1.session) _ names (s, false)
    fun at_ _ => session_apply at_.1 _

theorem session_removeMembers (s : State) (keys : Category.SetKeys) (members : List Member) :
    (s.removeMembers keys members).1.session = s.session :=
  foldl_keeps (fun at_ : State × Bool => at_.1.session) _ members (s, false)
    fun at_ _ => session_apply at_.1 _

theorem session_refresh (s : State) (around : Surroundings) (category : String) :
    (s.refresh around category).1.session = s.session := by
  by_cases going : s.Refreshable around category
  · by_cases none : ¬ s.database.sets.isSome = true ∨ s.memberCount category = 0
    · rw [refresh_nothing going none]
    · rw [not_or, not_not] at none
      let migrated := s.migrated around.clock category
      have reached : Reaches (Moves s.registry category) s migrated := migrated_reaches s _ category
      obtain ⟨questions, last⟩ := checkMembers_fst reached.registry around category
      rw [refresh_checks going none.1 none.2, last, session_notifyIf, session_removeMembers]
      exact session_moveExcluded s _ _ _
  · rw [refresh_idle going]

theorem session_refreshEach (around : Surroundings) (categories : List String) :
    ∀ s : State, (s.refreshEach around categories).1.session = s.session := by
  induction categories with
  | nil => exact fun _ => rfl
  | cons category rest ih =>
    intro s
    rw [refreshEach_cons]
    split
    · rfl
    · exact (ih _).trans (session_refresh s around category)

theorem session_deactivate (s : State) (category : String) :
    (s.deactivate category).1.session = s.session := by
  unfold deactivate
  rcases step : s.act (Classification.clear (setKeys category)) with ⟨t, cause | cleared⟩
  · exact congrArg (fun answer => answer.1.session) step.symm
  · exact (session_notifyIf t cleared category).trans
      (congrArg (fun answer => answer.1.session) step.symm)

/-- **What waits after a call waited before it or is of an active category.** -/
theorem waits_perform {c : Call} (waits : (s.perform c).Waits x) :
    s.Waits x ∨ s.registry.isActive x.category = true := by
  cases c with
  | detect around origin => exact waits_detect waits
  | confirm around => exact Or.inl (waits_confirm waits)
  | refresh around category =>
    refine Or.inl ?_
    unfold Waits perform at waits
    rwa [session_refresh] at waits
  | refreshAll around =>
    refine Or.inl ?_
    unfold Waits perform at waits
    dsimp only at waits
    unfold refreshAll at waits
    rwa [session_refreshEach] at waits
  | deactivate category =>
    refine Or.inl ?_
    unfold Waits perform at waits
    rwa [session_deactivate] at waits

end State

end CategoryFilter
