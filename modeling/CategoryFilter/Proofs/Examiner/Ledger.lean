/-
**What a confirmation puts back, and how it counts.**

A candidate that a source failed on is put back with one attempt more, or it is dropped. The queue and the
two counts of an operation are its ledger, and every part of a confirmation `Enters` the failed ones of its
candidates there, each once and in order:

* `enters_settle`, `enters_requeueAll`: settling a candidate enters it if its key failed; after a failure of
  the source as a whole all candidates are entered.
* `enters_confirmCategory`, `enters_confirmGroups`: so do a category and several of them.
* `Queue.pending_putBack`: what a queue holds after different candidates were put back.
* `Queue.restrict_putBack`: what is put back of a category does not depend on other categories.
-/

import CategoryFilter.Proofs.Examiner.Waiting
import CategoryFilter.Proofs.Lookup
import CategoryFilter.Proofs.Reexamination

namespace CategoryFilter

/-! ### Putting back -/

namespace Queue

variable {q : Queue} {p : Pending} {c : Candidate}

/-- A failed candidate has attempts left. -/
def retries (q : Queue) (p : Pending) : Bool :=
  !decide (q.maxAttempts ≤ p.2 + 1)

/-- The queue after some failed candidates were put back or dropped. -/
def putBack (q : Queue) (failed : List Pending) : Queue :=
  failed.foldl (fun q p => (q.requeue p.1 p.2).1) q

theorem requeue_snd (q : Queue) (p : Pending) : (q.requeue p.1 p.2).2 = q.retries p := by
  unfold requeue retries
  dsimp only
  split
  · next used => rw [decide_eq_true used]; rfl
  · next left => rw [decide_eq_false left]; rfl

theorem maxAttempts_raise (q : Queue) (c : Candidate) (attempts : UInt32) :
    (q.raise c attempts).maxAttempts = q.maxAttempts := by
  unfold raise
  split <;> rfl

theorem maxAttempts_requeue (q : Queue) (c : Candidate) (attempts : UInt32) :
    (q.requeue c attempts).1.maxAttempts = q.maxAttempts := by
  unfold requeue
  dsimp only
  split
  · rfl
  · exact maxAttempts_raise q c _

theorem putBack_append (q : Queue) (first second : List Pending) :
    q.putBack (first ++ second) = (q.putBack first).putBack second :=
  List.foldl_append

theorem maxAttempts_putBack (q : Queue) (failed : List Pending) :
    (q.putBack failed).maxAttempts = q.maxAttempts := by
  induction failed generalizing q with
  | nil => rfl
  | cons p rest ih => exact (ih _).trans (maxAttempts_requeue q p.1 p.2)

theorem retries_putBack (q : Queue) (failed : List Pending) :
    (q.putBack failed).retries = q.retries := by
  funext p
  unfold retries
  rw [maxAttempts_putBack]

theorem contains_iff : q.contains c = true ↔ c ∈ q.pending.map Prod.fst := by
  rw [contains, attempts?, ← Option.ne_none_iff_isSome, Ne, lookup_eq_none_iff, not_not]

/-- **What different candidates leave when they are put back**: those with attempts left follow the
queue. -/
theorem pending_putBack {failed : List Pending}
    (fresh : (q.pending.map Prod.fst ++ failed.map Prod.fst).Nodup) :
    (q.putBack failed).pending =
      q.pending ++ (failed.filter q.retries).map fun p => (p.1, p.2 + 1) := by
  induction failed generalizing q with
  | nil => exact (List.append_nil _).symm
  | cons p rest ih =>
    have absent : q.contains p.1 = false := by
      refine Bool.eq_false_iff.mpr fun held => ?_
      exact (List.nodup_append.mp fresh).2.2 p.1 (contains_iff.mp held) p.1 List.mem_cons_self rfl
    show ((q.requeue p.1 p.2).1.putBack rest).pending = _
    by_cases left : q.maxAttempts ≤ p.2 + 1
    · have dropped : q.retries p = false := by
        unfold retries
        rw [decide_eq_true left]
        rfl
      have kept : (q.requeue p.1 p.2).1 = q := by
        unfold requeue
        dsimp only
        rw [if_pos left]
      rw [kept, List.filter_cons_of_neg (Bool.eq_false_iff.mp dropped)]
      refine ih (fresh.sublist ?_)
      exact (List.Sublist.refl _).append (List.sublist_cons_self _ _)
    · have retried : q.retries p = true := by
        unfold retries
        rw [decide_eq_false left]
        rfl
      have added : (q.requeue p.1 p.2).1 = { q with pending := q.pending ++ [(p.1, p.2 + 1)] } := by
        unfold requeue raise
        dsimp only
        rw [if_neg left, if_neg (Bool.eq_false_iff.mp absent)]
      rw [added, List.filter_cons_of_pos retried, List.map_cons]
      refine (ih ?_).trans ?_
      · show ((q.pending ++ [(p.1, p.2 + 1)]).map Prod.fst ++ rest.map Prod.fst).Nodup
        rwa [List.map_append, List.append_assoc]
      · show (q.pending ++ [(p.1, p.2 + 1)]) ++ _ = _
        rw [List.append_assoc]
        rfl

/-! ### The part of a category -/

/-- The queue with the candidates of one category only. -/
def restrict (q : Queue) (category : String) : Queue :=
  { q with pending := ofCategory q.pending category }

theorem ofCategory_append (first second : List Pending) (category : String) :
    ofCategory (first ++ second) category = ofCategory first category ++ ofCategory second category :=
  List.filter_append first second

theorem contains_restrict (q : Queue) (c : Candidate) : (q.restrict c.category).contains c = q.contains c := by
  rw [Bool.eq_iff_iff, contains_iff, contains_iff, List.mem_map, List.mem_map]
  constructor
  · rintro ⟨p, listed, rfl⟩
    exact ⟨p, (List.mem_filter.mp listed).1, rfl⟩
  · rintro ⟨p, listed, rfl⟩
    exact ⟨p, List.mem_filter.mpr ⟨listed, decide_eq_true rfl⟩, rfl⟩

/-- Raising a count moves no candidate to another category. -/
theorem ofCategory_raised (pending : List Pending) (c : Candidate) (attempts : UInt32)
    (category : String) :
    ofCategory (pending.map fun p => if p.1 = c then (c, max p.2 attempts) else p) category =
      (ofCategory pending category).map fun p => if p.1 = c then (c, max p.2 attempts) else p := by
  unfold ofCategory
  rw [List.filter_map]
  refine congrArg (List.map _) (List.filter_congr fun p _ => ?_)
  by_cases same : p.1 = c
  · simp [same]
  · simp [same]

theorem restrict_raise (q : Queue) (c : Candidate) (attempts : UInt32) :
    (q.raise c attempts).restrict c.category = (q.restrict c.category).raise c attempts := by
  unfold raise
  rw [contains_restrict]
  split
  · exact congrArg (Queue.mk q.maxAttempts) (ofCategory_raised q.pending c attempts c.category)
  · refine congrArg (Queue.mk q.maxAttempts) ?_
    rw [ofCategory_append, ofCategory_cons_same rfl]
    rfl

theorem restrict_raise_other {category : String} (other : c.category ≠ category) (q : Queue)
    (attempts : UInt32) : (q.raise c attempts).restrict category = q.restrict category := by
  unfold raise
  split
  · refine congrArg (Queue.mk q.maxAttempts) ((ofCategory_raised q.pending c attempts category).trans ?_)
    refine (List.map_congr_left fun p listed => if_neg fun same => other ?_).trans (List.map_id _)
    rw [← same]
    exact of_decide_eq_true (List.mem_filter.mp listed).2
  · refine congrArg (Queue.mk q.maxAttempts) ?_
    rw [ofCategory_append, ofCategory_cons_other other]
    exact List.append_nil _

theorem restrict_requeue (q : Queue) (p : Pending) (category : String) :
    (q.requeue p.1 p.2).1.restrict category =
      if p.1.category = category then ((q.restrict category).requeue p.1 p.2).1
      else q.restrict category := by
  unfold requeue
  dsimp only
  by_cases own : p.1.category = category
  · subst own
    rw [if_pos rfl]
    show Queue.restrict (if q.maxAttempts ≤ _ then (q, false) else _).1 _ =
      (if q.maxAttempts ≤ _ then (q.restrict _, false) else _).1
    split
    · rfl
    · exact restrict_raise q p.1 _
  · rw [if_neg own]
    split
    · rfl
    · exact restrict_raise_other own q _

/-- **What is put back of a category** depends on its own candidates only. -/
theorem restrict_putBack (failed : List Pending) (category : String) :
    ∀ q : Queue, (q.putBack failed).restrict category =
      (q.restrict category).putBack (ofCategory failed category) := by
  induction failed with
  | nil => exact fun _ => rfl
  | cons p rest ih =>
    intro q
    refine (ih _).trans ?_
    rw [restrict_requeue]
    by_cases own : p.1.category = category
    · rw [if_pos own, ofCategory_cons_same own]
      rfl
    · rw [if_neg own, ofCategory_cons_other own]

end Queue

namespace State

open Category (setKeys)

/-! ### Ledgers -/

/-- The queue of an operation with its counts of candidates put back and dropped. -/
structure Ledger where
  queue : Queue
  requeued : Nat
  dropped : Nat

/-- The failed ones of some candidates are entered, each once and in order. -/
structure Ledger.Enters (failed : Pending → Bool) (items : List Pending) (l m : Ledger) : Prop where
  queue : m.queue = l.queue.putBack (items.filter failed)
  requeued : m.requeued = l.requeued + items.countP fun p => failed p && l.queue.retries p
  dropped : m.dropped = l.dropped + items.countP fun p => failed p && !l.queue.retries p

namespace Ledger.Enters

variable {failed : Pending → Bool} {first second items : List Pending} {l m n : Ledger}

theorem refl (failed : Pending → Bool) (l : Ledger) : Enters failed [] l l := ⟨rfl, rfl, rfl⟩

theorem append (one : Enters failed first l m) (two : Enters failed second m n) :
    Enters failed (first ++ second) l n := by
  have same : m.queue.retries = l.queue.retries := by
    rw [one.queue, Queue.retries_putBack]
  refine ⟨?_, ?_, ?_⟩
  · rw [two.queue, one.queue, List.filter_append, Queue.putBack_append]
  · rw [two.requeued, one.requeued, same, List.countP_append, Nat.add_assoc]
  · rw [two.dropped, one.dropped, same, List.countP_append, Nat.add_assoc]

theorem congr {other : Pending → Bool} (entered : Enters failed items l m)
    (same : ∀ p ∈ items, failed p = other p) : Enters other items l m := by
  refine ⟨?_, ?_, ?_⟩
  · rw [entered.queue, List.filter_congr same]
  · rw [entered.requeued]
    refine congrArg (l.requeued + ·) (List.countP_congr fun p listed => ?_)
    rw [same p listed]
  · rw [entered.dropped]
    refine congrArg (l.dropped + ·) (List.countP_congr fun p listed => ?_)
    rw [same p listed]

/-- Nothing is entered where nothing failed. -/
theorem none (answered : ∀ p ∈ items, failed p = false) (l : Ledger) : Enters failed items l l := by
  refine ⟨?_, ?_, ?_⟩
  · rw [List.filter_eq_nil_iff.mpr fun p listed => Bool.eq_false_iff.mp (answered p listed)]
    rfl
  · rw [List.countP_eq_zero.mpr fun p listed => by rw [answered p listed]; simp]
    rfl
  · rw [List.countP_eq_zero.mpr fun p listed => by rw [answered p listed]; simp]
    rfl

/-- The ledger of one failed candidate. -/
theorem single {p : Pending} (missed : failed p = true)
    (queue : m.queue = (l.queue.requeue p.1 p.2).1)
    (requeued : m.requeued = l.requeued + if l.queue.retries p then 1 else 0)
    (dropped : m.dropped = l.dropped + if l.queue.retries p then 0 else 1) :
    Enters failed [p] l m := by
  refine ⟨?_, ?_, ?_⟩
  · rw [queue, List.filter_cons_of_pos missed]
    rfl
  · rw [requeued, List.countP_singleton, missed, Bool.true_and]
  · rw [dropped, List.countP_singleton, missed, Bool.true_and]
    cases l.queue.retries p <;> rfl

end Ledger.Enters

/-- The ledgers of steps that each enter their candidate, one after another. -/
theorem enters_foldl {σ : Type} {failed : Pending → Bool} (view : σ → Ledger)
    (step : σ → Pending → σ) (items : List Pending) (start : σ)
    (each : ∀ x p, Ledger.Enters failed [p] (view x) (view (step x p))) :
    Ledger.Enters failed items (view start) (view (items.foldl step start)) := by
  induction items generalizing start with
  | nil => exact .refl _ _
  | cons p rest ih => exact (each start p).append (ih (step start p))

/-! ### Settling candidates -/

/-- The source failed on the key of a candidate. -/
def Ruling.misses (ruling : Ruling) (p : Pending) : Bool :=
  ruling.confirmation.failed.contains (ruling.source.key p.1)

/-- The ledger of a category's confirmation. -/
def outcomeLedger (done : State × Outcome) : Ledger :=
  ⟨done.1.session.queue, done.2.requeued, done.2.dropped⟩

/-- The ledger of a confirmation. -/
def reportLedger (done : State × ConfirmReport) : Ledger :=
  ⟨done.1.session.queue, done.2.requeued, done.2.dropped⟩

/-- The ledger of candidates being settled. -/
def settlingLedger (at_ : Settling) : Ledger :=
  outcomeLedger (at_.state, at_.outcome)

theorem requeued_addFailed (o : Outcome) (kept : Bool) :
    (o.addFailed kept).requeued = o.requeued + if kept then 1 else 0 := by
  cases kept <;> rfl

theorem dropped_addFailed (o : Outcome) (kept : Bool) :
    (o.addFailed kept).dropped = o.dropped + if kept then 0 else 1 := by
  cases kept <;> rfl

/-- Requeueing a failed candidate and counting it enters it. -/
theorem enters_requeue {failed : Pending → Bool} {p : Pending} (missed : failed p = true)
    (done : State × Outcome) :
    Ledger.Enters failed [p] (outcomeLedger done)
      (outcomeLedger ((done.1.requeue p).1, done.2.addFailed (done.1.requeue p).2)) := by
  have kept : (done.1.requeue p).2 = done.1.session.queue.retries p := Queue.requeue_snd _ p
  refine .single missed rfl ?_ ?_
  · show (done.2.addFailed _).requeued = _
    rw [requeued_addFailed, kept]
    rfl
  · show (done.2.addFailed _).dropped = _
    rw [dropped_addFailed, kept]
    rfl

theorem enters_requeueAll {failed : Pending → Bool} {items : List Pending}
    (missed : ∀ p ∈ items, failed p = true) (s : State) :
    Ledger.Enters failed items (outcomeLedger (s, .empty)) (outcomeLedger (s.requeueAll items)) := by
  have entered : Ledger.Enters (fun _ => true) items _ (outcomeLedger (s.requeueAll items)) :=
    enters_foldl outcomeLedger _ items (s, .empty) fun done p => enters_requeue rfl done
  exact entered.congr fun p listed => (missed p listed).symm

/-- What is not put back leaves the ledger as it is. -/
theorem ledger_settle_answered {ruling : Ruling} {at_ : Settling} {p : Pending} (clock : Clock)
    (answered : ruling.misses p = false) :
    settlingLedger (settle clock ruling at_ p) = settlingLedger at_ := by
  have answered : ruling.confirmation.failed.contains (ruling.source.key p.1) = false := answered
  cases hit : ruling.isHit p.1 with
  | true =>
    rw [settle_hit clock answered hit]
    unfold settlingLedger outcomeLedger
    rw [session_feed, (feed_outcome _ _ _ _).1]
    dsimp only
    rw [session_apply]
    rfl
  | false =>
    unfold settlingLedger outcomeLedger
    rw [settle_passthrough clock answered hit, session_apply]
    have counts : (settle clock ruling at_ p).outcome = at_.outcome.addChange (at_.state.apply
        (Classification.addPassthrough (setKeys ruling.category) p.1.origin ruling.score)).2 := by
      unfold settle
      rw [if_neg (Bool.eq_false_iff.mp answered), if_neg (Bool.eq_false_iff.mp hit)]
    rw [counts]
    rfl

/-- **Settling a candidate enters it if the source failed on its key.** -/
theorem enters_settle (clock : Clock) (ruling : Ruling) (at_ : Settling) (p : Pending) :
    Ledger.Enters ruling.misses [p] (settlingLedger at_) (settlingLedger (settle clock ruling at_ p)) := by
  cases missed : ruling.misses p with
  | false =>
    rw [ledger_settle_answered clock missed]
    refine .none (fun q listed => ?_) _
    rw [List.mem_singleton.mp listed, missed]
  | true =>
    have entered := enters_requeue missed (at_.state, at_.outcome)
    have failed : ruling.confirmation.failed.contains (ruling.source.key p.1) = true := missed
    have same : settlingLedger (settle clock ruling at_ p) = outcomeLedger
        ((at_.state.requeue p).1, at_.outcome.addFailed (at_.state.requeue p).2) := by
      unfold settle
      rw [if_pos failed]
      rfl
    rwa [same]

theorem enters_settleAll (s : State) (clock : Clock) (ruling : Ruling) (items : List Pending) :
    Ledger.Enters ruling.misses items (outcomeLedger (s, .empty))
      (outcomeLedger (s.settleAll clock ruling items)) := by
  have settled := enters_foldl settlingLedger (settle clock ruling) items ⟨s, .empty, []⟩
    (enters_settle clock ruling)
  have same : outcomeLedger (s.settleAll clock ruling items) =
      settlingLedger (items.foldl (settle clock ruling) ⟨s, .empty, []⟩) := by
    unfold settleAll outcomeLedger
    dsimp only
    rw [trimSets, session_apply]
    rfl
  rwa [same]

/-! ### Categories -/

/-- The source of a category fails on a candidate of some: as a whole or on its key. A category that keeps
no sets asks no source. -/
def misses (s : State) (services : Services) (category : String) (items : List Pending)
    (p : Pending) : Bool :=
  (s.registry.strategy category).updateConfirmSet &&
    match (s.consult services category items).2 with
    | .error _ => true
    | .ok confirmation => confirmation.failed.contains ((s.source category).key p.1)

/-- **The confirmation of a category enters the candidates that its source failed on.** -/
theorem enters_confirmCategory (s : State) (services : Services) (clock : Clock) (category : String)
    (items : List Pending) :
    Ledger.Enters (s.misses services category items) items (outcomeLedger (s, .empty))
      (outcomeLedger (s.confirmCategory services clock category items)) := by
  cases recorded : (s.registry.strategy category).updateConfirmSet with
  | false =>
    rw [confirmCategory_ignored recorded]
    refine .none (fun p _ => ?_) _
    rw [misses, recorded, Bool.false_and]
  | true =>
    cases answer : (s.consult services category items).2 with
    | error cause =>
      rw [confirmCategory_failed recorded answer]
      refine enters_requeueAll (fun p _ => ?_) (s.ask _)
      rw [misses, recorded, answer, Bool.true_and]
    | ok confirmation =>
      rw [confirmCategory_answered recorded answer]
      refine (enters_settleAll (s.ask _) clock (s.ruling clock category confirmation) items).congr
        fun p _ => ?_
      rw [misses, recorded, answer, Bool.true_and]
      rfl

/-- The source of a waiting candidate's category fails on it. -/
def fails (s : State) (services : Services) (p : Pending) : Bool :=
  s.misses services p.1.category (s.candidates p.1.category) p

theorem misses_eq {s u : State} (same : u.registry = s.registry) (services : Services)
    (category : String) (items : List Pending) :
    u.misses services category items = s.misses services category items := by
  unfold misses source
  rw [consult_eq same, same]

/-- A group of a batch holds the waiting candidates of its category. -/
def IsGroup (s : State) (group : String × List Pending) : Prop :=
  group.2 = s.candidates group.1

theorem IsGroup.category {s : State} {group : String × List Pending} (exact : s.IsGroup group)
    {p : Pending} (listed : p ∈ group.2) : p.1.category = group.1 := by
  rw [exact] at listed
  exact of_decide_eq_true (List.mem_filter.mp listed).2

theorem isGroup (s : State) : ∀ g ∈ groupByCategory s.session.queue.pending, s.IsGroup g :=
  fun g listed => ((grouped_groupByCategory _).exact g listed).1

theorem enters_confirmGroup {s : State} {so_far : State × ConfirmReport}
    {group : String × List Pending} (same : so_far.1.registry = s.registry)
    (exact : s.IsGroup group) (services : Services) (clock : Clock) :
    Ledger.Enters (s.fails services) group.2 (reportLedger so_far)
      (reportLedger (confirmGroup services clock so_far group)) := by
  let done := so_far.1.confirmCategory services clock group.1 group.2
  have entered : Ledger.Enters (s.fails services) group.2 _ (outcomeLedger done) :=
    (enters_confirmCategory so_far.1 services clock group.1 group.2).congr fun p listed => by
      rw [misses_eq same, fails, exact.category listed, ← exact]
  have queue : (reportLedger (confirmGroup services clock so_far group)).queue =
      done.1.session.queue := by
    show ((done.1.notifyIf _ _).session).queue = _
    rw [session_notifyIf]
  refine ⟨queue.trans entered.queue, ?_, ?_⟩
  · show so_far.2.requeued + done.2.requeued = _
    exact congrArg (so_far.2.requeued + ·) (entered.requeued.trans (Nat.zero_add _))
  · show so_far.2.dropped + done.2.dropped = _
    exact congrArg (so_far.2.dropped + ·) (entered.dropped.trans (Nat.zero_add _))

theorem enters_confirmGroups {s : State} (services : Services) (clock : Clock)
    (groups : List (String × List Pending)) :
    ∀ start : State × ConfirmReport, start.1.registry = s.registry → (∀ g ∈ groups, s.IsGroup g) →
      Ledger.Enters (s.fails services) (groups.flatMap Prod.snd) (reportLedger start)
        (reportLedger (groups.foldl (confirmGroup services clock) start)) := by
  induction groups with
  | nil => exact fun start _ _ => .refl _ _
  | cons group rest ih =>
    intro start same exact
    have first := enters_confirmGroup same (exact group List.mem_cons_self) services clock
    have reached := confirmGroup_reaches services clock start group
    exact first.append (ih _ (reached.registry.trans same) fun g listed =>
      exact g (List.mem_cons_of_mem _ listed))

end State

/-! ### The whole batch -/

theorem flatMap_addToGroups (p : Pending) (groups : List (String × List Pending)) :
    (addToGroups p groups).flatMap Prod.snd = p :: groups.flatMap Prod.snd := by
  unfold addToGroups
  split
  · split <;> rfl
  · rfl

/-- The groups of a batch, one after another, are the sorted batch. -/
theorem flatMap_groupByCategory (batch : List Pending) :
    (groupByCategory batch).flatMap Prod.snd = sortPending batch := by
  rw [groupByCategory_eq]
  induction sortPending batch with
  | nil => rfl
  | cons p rest ih => rw [List.foldr_cons, flatMap_addToGroups, ih]

/-- **A confirmation enters the failed ones of all waiting candidates** into an empty queue. -/
theorem State.enters_confirmQueued (s : State) (services : Services) (clock : Clock) :
    Ledger.Enters (s.fails services) (sortPending s.session.queue.pending)
      ⟨s.session.queue.drain.1, 0, 0⟩ (reportLedger (s.confirmQueued services clock)) := by
  rw [← flatMap_groupByCategory]
  exact enters_confirmGroups services clock _ s.drained rfl s.isGroup

end CategoryFilter
