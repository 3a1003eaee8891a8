/-
**Every waiting candidate has one fate.**

A confirmation of the queue takes all candidates out of it. Each of them is settled, put back with one
attempt more, or dropped (`State.fate`):

* `fate_ne_settled_iff`, `fate_eq_dropped_iff`: it is put back or dropped if its category's source failed as
  a whole or on its key, and dropped if its attempts are used up.
* `SettledAll`: the settled candidates of a category whose source answered are what its sets record.
* `sameSets_idle`: no set of a category is touched that keeps no sets or whose source failed as a whole,
  and no notice is sent about it.
* `confirmQueued_accounted`: queue, report and sets afterwards, for every orderly queue and every answers.
-/

import CategoryFilter.Proofs.Examiner.Ledger
import CategoryFilter.Proofs.Store.Dynamic
import Mathlib.Data.Finset.Card
import Mathlib.Data.Finset.Dedup

namespace CategoryFilter

/-- What becomes of a waiting candidate. -/
inductive Fate where
  /-- It is classified, or it is discarded with a category that keeps no sets. -/
  | settled
  /-- It waits again, with one failed attempt more. -/
  | requeued
  /-- Its attempts are used up. -/
  | dropped
deriving DecidableEq

/-- Each candidate waits once, and none has used up its attempts. -/
structure Queue.Bounded (limit : UInt32) (q : Queue) : Prop where
  maxAttempts : q.maxAttempts = limit
  distinct : (q.pending.map Prod.fst).Nodup
  below : ∀ p ∈ q.pending, p.2 < limit

/-- A candidate that does not wait may be added with attempts left. -/
theorem Queue.Bounded.append {limit attempts : UInt32} {q : Queue} {c : Candidate}
    (bounded : q.Bounded limit) (absent : ¬ q.contains c = true) (left : attempts < limit) :
    ({ q with pending := q.pending ++ [(c, attempts)] } : Queue).Bounded limit := by
  refine ⟨bounded.maxAttempts, ?_, fun p listed => ?_⟩
  · show ((q.pending ++ [(c, attempts)]).map Prod.fst).Nodup
    rw [List.map_append]
    refine List.nodup_append.mpr ⟨bounded.distinct, List.nodup_singleton _, ?_⟩
    rintro first held second here rfl
    rw [List.mem_singleton.mp here] at held
    exact absent (contains_iff.mpr held)
  · rcases List.mem_append.mp listed with old | new
    · exact bounded.below p old
    · rw [List.mem_singleton.mp new]
      exact left

/-- A fresh candidate may try at least once. -/
theorem Queue.Bounded.enqueue {limit : UInt32} {q : Queue} (bounded : q.Bounded limit)
    (positive : 0 < limit) (c : Candidate) : (q.enqueue c).1.Bounded limit := by
  unfold Queue.enqueue
  split
  · exact bounded
  · next absent => exact bounded.append absent positive

theorem Queue.limit_pos (maxAttempts : UInt32) : 0 < max maxAttempts 1 := by
  rw [UInt32.lt_iff_toNat_lt, UInt32.toNat_max]
  exact Nat.lt_of_lt_of_le Nat.one_pos (Nat.le_max_right _ _)

/-- A count below the limit can be counted on. -/
theorem Queue.toNat_add_one_of_lt {limit attempts : UInt32} (left : attempts < limit) :
    (attempts + 1).toNat = attempts.toNat + 1 := by
  have less := UInt32.lt_iff_toNat_lt.mp left
  have bound := limit.toNat_lt
  rw [UInt32.toNat_add]
  exact Nat.mod_eq_of_lt (by simp; omega)

/-- A candidate may try again if the failed attempt was not its last. -/
theorem Queue.Bounded.retries_iff {limit : UInt32} {q : Queue} {p : Pending} (bounded : q.Bounded limit)
    (left : p.2 < limit) : q.retries p = true ↔ p.2.toNat + 1 < limit.toNat := by
  unfold Queue.retries
  rw [bounded.maxAttempts, Bool.not_eq_true', decide_eq_false_iff_not, UInt32.le_iff_toNat_le,
    toNat_add_one_of_lt left, Nat.not_le]

namespace State

open Database (Trail SameSets execute)
open Category (setKeys)

variable {s t : State} {services : Services} {clock : Clock} {category : String} {p : Pending}

/-! ### Fates -/

/-- What becomes of a waiting candidate in a confirmation of the queue. -/
def fate (s : State) (services : Services) (p : Pending) : Fate :=
  if s.fails services p then if s.session.queue.retries p then .requeued else .dropped
  else .settled

/-- The source of a category fails on its waiting candidates as a whole. -/
def BulkFailure (s : State) (services : Services) (category : String) : Prop :=
  (s.registry.strategy category).updateConfirmSet = true ∧
    ∃ cause, (s.consult services category (s.candidates category)).2 = .error cause

/-- The source of a category answers, and it reports a candidate's key as failed. -/
def KeyFailure (s : State) (services : Services) (p : Pending) : Prop :=
  (s.registry.strategy p.1.category).updateConfirmSet = true ∧
    ∃ confirmation,
      (s.consult services p.1.category (s.candidates p.1.category)).2 = .ok confirmation ∧
        confirmation.failed.contains ((s.source p.1.category).key p.1) = true

theorem fails_iff : s.fails services p = true ↔
    s.BulkFailure services p.1.category ∨ s.KeyFailure services p := by
  unfold fails misses BulkFailure KeyFailure
  cases (s.registry.strategy p.1.category).updateConfirmSet with
  | false => simp
  | true =>
    cases (s.consult services p.1.category (s.candidates p.1.category)).2 with
    | error cause => simp
    | ok confirmation => simp

/-- The queue is as a running examiner keeps it. -/
abbrev Orderly (s : State) : Prop :=
  s.session.queue.Bounded (max s.config.maxConfirmAttempts 1)

/-- The limit of failed attempts, one at least. -/
def attemptLimit (s : State) : Nat :=
  max s.config.maxConfirmAttempts.toNat 1

theorem toNat_limit (s : State) : (max s.config.maxConfirmAttempts 1).toNat = s.attemptLimit :=
  UInt32.toNat_max s.config.maxConfirmAttempts 1

namespace Orderly

/-- A failed attempt more is no overflow. -/
theorem toNat_succ (orderly : s.Orderly) (waiting : p ∈ s.session.queue.pending) :
    (p.2 + 1).toNat = p.2.toNat + 1 :=
  Queue.toNat_add_one_of_lt (orderly.below p waiting)

theorem retries_iff (orderly : s.Orderly) (waiting : p ∈ s.session.queue.pending) :
    s.session.queue.retries p = true ↔ p.2.toNat + 1 < s.attemptLimit := by
  rw [← toNat_limit]
  exact Queue.Bounded.retries_iff orderly (orderly.below p waiting)

end Orderly

/-- **What fails is put back or dropped, and nothing else.** -/
theorem fate_ne_settled_iff : s.fate services p ≠ .settled ↔
    s.BulkFailure services p.1.category ∨ s.KeyFailure services p := by
  rw [← fails_iff]
  unfold fate
  split
  · next failed =>
    split <;> simp [failed]
  · next answered => simp [answered]

/-- **A failed candidate is dropped if its attempts are used up.** -/
theorem fate_eq_dropped_iff (orderly : s.Orderly) (waiting : p ∈ s.session.queue.pending) :
    s.fate services p = .dropped ↔
      (s.BulkFailure services p.1.category ∨ s.KeyFailure services p) ∧
        s.attemptLimit ≤ p.2.toNat + 1 := by
  rw [← fails_iff, ← Nat.not_lt, ← orderly.retries_iff waiting]
  unfold fate
  split
  · next failed =>
    split
    · next left => simp [failed, left]
    · next used => simp [failed, used]
  · next answered => simp [answered]

/-! ### Untouched categories -/

/-- A category asks no source, or its source fails as a whole. -/
def Idle (s : State) (services : Services) (category : String) : Prop :=
  (s.registry.strategy category).updateConfirmSet = false ∨ s.BulkFailure services category

theorem confirmCategory_idle {u : State} {group : String × List Pending}
    (same : u.registry = s.registry) (exact : s.IsGroup group) (idle : s.Idle services group.1)
    (clock : Clock) :
    (u.confirmCategory services clock group.1 group.2).1.database = u.database ∧
      (u.confirmCategory services clock group.1 group.2).2.changed = false := by
  rcases idle with ignored | ⟨recorded, cause, failed⟩
  · rw [← same] at ignored
    rw [confirmCategory_ignored ignored]
    exact ⟨rfl, rfl⟩
  · have failed : (u.consult services group.1 group.2).2 = .error cause := by
      rw [exact, ← failed, consult_eq same]
    rw [← same] at recorded
    rw [confirmCategory_failed recorded failed]
    have kept := foldl_keeps (fun at_ : State × Outcome => (at_.1.database, at_.2.changed))
      (fun at_ p => ((at_.1.requeue p).1, at_.2.addFailed (at_.1.requeue p).2)) group.2
      (u.ask (u.consult services group.1 group.2).1, .empty)
      fun at_ p => Prod.ext rfl (addFailed_changed _ _)
    exact ⟨congrArg Prod.fst kept, congrArg Prod.snd kept⟩

/-- What a group writes and sends, and what the report notes of it: nothing for an idle category. -/
theorem confirmGroup_active {so_far : State × ConfirmReport} {group : String × List Pending}
    (same : so_far.1.registry = s.registry) (exact : s.IsGroup group) (clock : Clock) :
    let next := confirmGroup services clock so_far group
    Trail (fun db w => ¬ s.Idle services group.1 ∧ Confirms s.registry group.1 db w)
        so_far.1.database next.1.database ∧
      ∃ sent, next.1.notified = so_far.1.notified ++ sent ∧
        next.2.changed = so_far.2.changed ++ sent ∧
        ∀ category ∈ sent, category = group.1 ∧ ¬ s.Idle services category := by
  intro next
  let done := so_far.1.confirmCategory services clock group.1 group.2
  have notified : next.1.notified =
      so_far.1.notified ++ if done.2.changed then [group.1] else [] :=
    (notified_notifyIf done.1 done.2.changed group.1).trans
      (congrArg (· ++ _) (notified_confirmCategory so_far.1 services clock group.1 group.2))
  have changed : next.2.changed = so_far.2.changed ++ if done.2.changed then [group.1] else [] := by
    show (if done.2.changed then so_far.2.changed ++ [group.1] else so_far.2.changed) = _
    cases done.2.changed
    · exact (List.append_nil _).symm
    · rfl
  by_cases idle : s.Idle services group.1
  · obtain ⟨kept, quiet⟩ := confirmCategory_idle same exact idle clock
    refine ⟨Trail.of_eq ((database_notifyIf _ _ _).trans kept), _, notified, changed, ?_⟩
    rw [quiet]
    exact fun _ listed => absurd listed List.not_mem_nil
  · refine ⟨?_, _, notified, changed, fun category listed => ?_⟩
    · rw [← same]
      exact (confirmGroup_reaches services clock so_far group).trail.mono
        fun _ _ allowed => ⟨idle, allowed⟩
    · split at listed
      · rw [List.mem_singleton.mp listed]
        exact ⟨rfl, idle⟩
      · exact absurd listed List.not_mem_nil

/-- The writes, the notices and the numbers of a confirmation of some groups. -/
theorem confirmGroups_active (services : Services) (clock : Clock) (groups : List (String × List Pending)) :
    ∀ start : State × ConfirmReport, start.1.registry = s.registry → (∀ g ∈ groups, s.IsGroup g) →
      let last := groups.foldl (confirmGroup services clock) start
      Trail (fun db w => ¬ s.Idle services w.category ∧ Confirms s.registry w.category db w)
          start.1.database last.1.database ∧
        (∃ sent, last.1.notified = start.1.notified ++ sent ∧
          last.2.changed = start.2.changed ++ sent ∧ ∀ category ∈ sent, ¬ s.Idle services category) ∧
        last.2.candidates = start.2.candidates ∧
        last.2.categories = start.2.categories + groups.length := by
  induction groups with
  | nil =>
    intro start _ _
    exact ⟨Trail.refl _, ⟨[], by simp, by simp, fun _ listed => absurd listed List.not_mem_nil⟩,
      rfl, rfl⟩
  | cons group rest ih =>
    intro start same exact last
    obtain ⟨trail, here, notices, changes, active⟩ :=
      confirmGroup_active same (exact group List.mem_cons_self) clock
    have reached := confirmGroup_reaches services clock start group
    obtain ⟨later, ⟨sent, notices', changes', active'⟩, candidates, categories⟩ :=
      ih (confirmGroup services clock start group) (reached.registry.trans same)
        fun g listed => exact g (List.mem_cons_of_mem _ listed)
    refine ⟨(trail.mono fun db w allowed => ?_).trans later, ⟨here ++ sent, ?_, ?_, ?_⟩, candidates, ?_⟩
    · have own := category_of_confirms allowed.2
      rwa [own]
    · rw [← List.append_assoc, ← notices]
      exact notices'
    · rw [← List.append_assoc, ← changes]
      exact changes'
    · intro category listed
      rcases List.mem_append.mp listed with first | second
      · exact (active category first).2
      · exact active' category second
    · refine categories.trans ?_
      show start.2.categories + 1 + rest.length = start.2.categories + (rest.length + 1)
      omega

/-- **A confirmation touches no set of an idle category**, whatever the database. -/
theorem sameSets_idle (idle : s.Idle services category) (clock : Clock) :
    SameSets category s.database (s.confirmQueued services clock).1.database := by
  have active : Trail (fun db w => ¬ s.Idle services w.category ∧ Confirms s.registry w.category db w)
      s.database (s.confirmQueued services clock).1.database :=
    (confirmGroups_active (s := s) services clock _ s.drained rfl s.isGroup).1
  refine active.sameSets fun _ w allowed same => allowed.1 ?_
  rwa [same]

/-! ### Settled candidates -/

/-- What a settled candidate is classified as: a hit under its pattern or a passthrough under its
origin. -/
def Ruling.classification (ruling : Ruling) (p : Pending) : Member :=
  if ruling.isHit p.1 then ⟨p.1.pattern, .hit⟩ else ⟨p.1.origin, .passthrough⟩

theorem Ruling.recording?_eq (ruling : Ruling) (p : Pending) :
    ruling.recording? p.1 = if ruling.misses p then none else some (ruling.classification p) := by
  unfold Ruling.recording? Ruling.misses Ruling.classification
  cases ruling.isHit p.1 <;> rfl

theorem Ruling.entries_eq (ruling : Ruling) (items : List Pending) :
    ruling.entries items = (items.filter fun p => !ruling.misses p).map ruling.classification := by
  unfold Ruling.entries
  induction items with
  | nil => rfl
  | cons p rest ih =>
    rw [List.flatMap_cons, ih, Ruling.recording?_eq]
    cases missed : ruling.misses p with
    | true =>
      rw [List.filter_cons_of_neg (by simp [missed])]
      rfl
    | false =>
      rw [List.filter_cons_of_pos (by simp [missed]), List.map_cons]
      rfl

/-- The sets of a category record the classifications of its settled candidates, each once, and are cut to
their limit. -/
def SettledAll (s : State) (services : Services) (clock : Clock) (category : String)
    (confirmation : Confirmation) (after : Database) : Prop :=
  ∃ db : Database, db.Healthy ∧
    db.pair category = (s.database.pair category).recordAll (clock (.confirmation category))
      (((s.candidates category).filter fun p => decide (s.fate services p = .settled)).map
        (s.ruling clock category confirmation).classification) ∧
    after.pair category =
      (execute (Classification.trim (setKeys category) s.config.maxSetSize.toNat) db).2.pair category

theorem fate_eq_settled_iff : s.fate services p = .settled ↔ s.fails services p = false := by
  unfold fate
  split
  · next failed =>
    split <;> simp [failed]
  · next answered => simp [answered]

/-- **A category whose source answered records its settled candidates.** -/
theorem settledAll_confirmQueued {confirmation : Confirmation} (healthy : s.database.Healthy)
    (recorded : (s.registry.strategy category).updateConfirmSet = true)
    (answered : (s.consult services category (s.candidates category)).2 = .ok confirmation)
    (waiting : ∃ p ∈ s.session.queue.pending, p.1.category = category) (clock : Clock) :
    s.SettledAll services clock category confirmation (s.confirmQueued services clock).1.database := by
  obtain ⟨p, waiting, own⟩ := waiting
  obtain ⟨u, turn, last⟩ := exists_turn waiting own services clock
  obtain ⟨db, sound, records, cut⟩ := exists_cut (turn.healthy healthy)
    ((congrArg (fun r : Registry => (r.strategy category).updateConfirmSet) turn.registry).trans
      recorded)
    ((congrArg Prod.snd (turn.consult_eq (s.candidates category))).trans answered) clock
  refine ⟨db, sound, ?_, ?_⟩
  · have settled : (s.candidates category).filter
          (fun p => !(s.ruling clock category confirmation).misses p) =
        (s.candidates category).filter fun p => decide (s.fate services p = .settled) := by
      refine List.filter_congr fun q listed => ?_
      have own : q.1.category = category := of_decide_eq_true (List.mem_filter.mp listed).2
      have same : s.fails services q = (s.ruling clock category confirmation).misses q := by
        subst own
        rw [fails, misses, recorded, answered, Bool.true_and]
        rfl
      rw [Bool.eq_iff_iff, decide_eq_true_iff, fate_eq_settled_iff, same, Bool.not_eq_true']
    rw [records, turn.recorded_eq, State.recorded, Ruling.entries_eq, settled]
  · rw [last, ← turn.config, ← cut]
    rfl

/-! ### The whole account -/

/-- What a confirmation of the queue did with its candidates, its report and the sets. -/
structure Accounted (s : State) (services : Services) (clock : Clock) (t : State)
    (report : ConfirmReport) : Prop where
  /-- A candidate is put back or dropped exactly if the source failed as a whole or on its key. -/
  failed : ∀ p ∈ s.session.queue.pending, s.fate services p ≠ .settled ↔
    s.BulkFailure services p.1.category ∨ s.KeyFailure services p
  /-- A failed candidate is dropped exactly if its attempts are used up. -/
  exhausted : ∀ p ∈ s.session.queue.pending, s.fate services p = .dropped ↔
    (s.BulkFailure services p.1.category ∨ s.KeyFailure services p) ∧ s.attemptLimit ≤ p.2.toNat + 1
  /-- The queue holds the candidates put back, with one attempt more, and no others. -/
  waiting : ∀ c attempts, (c, attempts) ∈ t.session.queue.pending ↔
    ∃ p ∈ s.session.queue.pending, s.fate services p = .requeued ∧ p.1 = c ∧
      attempts.toNat = p.2.toNat + 1
  once : (t.session.queue.pending.map Prod.fst).Nodup
  candidates : report.candidates = s.session.queue.pending.length
  requeued : report.requeued =
    s.session.queue.pending.countP fun p => decide (s.fate services p = .requeued)
  dropped : report.dropped =
    s.session.queue.pending.countP fun p => decide (s.fate services p = .dropped)
  balance : report.candidates =
    (s.session.queue.pending.countP fun p => decide (s.fate services p = .settled)) +
      report.requeued + report.dropped
  categories : report.categories =
    (s.session.queue.pending.map fun p => p.1.category).toFinset.card
  /-- Where a source answered, what settled is recorded. -/
  settled : s.database.Healthy → ∀ category confirmation,
    (s.registry.strategy category).updateConfirmSet = true →
    (s.consult services category (s.candidates category)).2 = .ok confirmation →
    (∃ p ∈ s.session.queue.pending, p.1.category = category) →
      s.SettledAll services clock category confirmation t.database
  /-- Where nothing was asked, or the source failed as a whole, nothing is touched or sent. -/
  untouched : ∀ category, s.Idle services category →
    SameSets category s.database t.database ∧ category ∉ report.changed
  notices : t.notified = s.notified ++ report.changed

theorem requeued_eq (s : State) (services : Services) (p : Pending) :
    decide (s.fate services p = .requeued) = (s.fails services p && s.session.queue.retries p) := by
  unfold fate
  cases s.fails services p <;> cases s.session.queue.retries p <;> rfl

theorem dropped_eq (s : State) (services : Services) (p : Pending) :
    decide (s.fate services p = .dropped) = (s.fails services p && !s.session.queue.retries p) := by
  unfold fate
  cases s.fails services p <;> cases s.session.queue.retries p <;> rfl

theorem countP_sortPending (batch : List Pending) (test : Pending → Bool) :
    (sortPending batch).countP test = batch.countP test :=
  (List.mergeSort_perm _ _).countP_eq test

/-- The three fates add up. -/
theorem countP_fates (s : State) (services : Services) (batch : List Pending) :
    batch.length = (batch.countP fun p => decide (s.fate services p = .settled)) +
      (batch.countP fun p => decide (s.fate services p = .requeued)) +
      batch.countP fun p => decide (s.fate services p = .dropped) := by
  induction batch with
  | nil => rfl
  | cons p rest ih =>
    simp only [List.length_cons, List.countP_cons]
    cases s.fate services p <;> simp <;> omega

/-- The candidates that a confirmation puts back, in the order in which it enters them. -/
theorem pending_confirmQueued (orderly : s.Orderly) (services : Services) (clock : Clock) :
    (s.confirmQueued services clock).1.session.queue.pending =
      ((sortPending s.session.queue.pending).filter fun p =>
        decide (s.fate services p = .requeued)).map fun p => (p.1, p.2 + 1) := by
  let failed := (sortPending s.session.queue.pending).filter (s.fails services)
  have queue : (s.confirmQueued services clock).1.session.queue =
      s.session.queue.drain.1.putBack failed := (s.enters_confirmQueued services clock).queue
  have distinct : (failed.map Prod.fst).Nodup :=
    List.Nodup.sublist (List.filter_sublist.map Prod.fst)
      (((List.mergeSort_perm _ _).map Prod.fst).nodup_iff.mpr orderly.distinct)
  rw [queue, Queue.pending_putBack (q := s.session.queue.drain.1) distinct, List.filter_filter]
  refine congrArg (List.map _) (List.filter_congr fun p _ => ?_)
  rw [requeued_eq, Bool.and_comm]
  rfl

/-- **The queue holds the candidates put back, with one attempt more, and no others.** -/
theorem mem_pending_confirmQueued (orderly : s.Orderly) (services : Services) (clock : Clock)
    (c : Candidate) (attempts : UInt32) :
    (c, attempts) ∈ (s.confirmQueued services clock).1.session.queue.pending ↔
      ∃ p ∈ s.session.queue.pending, s.fate services p = .requeued ∧ p.1 = c ∧
        attempts.toNat = p.2.toNat + 1 := by
  rw [pending_confirmQueued orderly, List.mem_map]
  constructor
  · rintro ⟨p, listed, same⟩
    cases same
    obtain ⟨held, fate⟩ := List.mem_filter.mp listed
    have waits := mem_sortPending.mp held
    exact ⟨p, waits, of_decide_eq_true fate, rfl, orderly.toNat_succ waits⟩
  · rintro ⟨p, waits, fate, rfl, count⟩
    refine ⟨p, List.mem_filter.mpr ⟨mem_sortPending.mpr waits, decide_eq_true fate⟩, ?_⟩
    rw [← orderly.toNat_succ waits] at count
    exact Prod.ext rfl (UInt32.toNat_inj.mp count).symm

/-- No candidate is put back twice. -/
theorem nodup_pending_confirmQueued (orderly : s.Orderly) (services : Services) (clock : Clock) :
    ((s.confirmQueued services clock).1.session.queue.pending.map Prod.fst).Nodup := by
  rw [pending_confirmQueued orderly, List.map_map]
  refine List.Nodup.sublist (List.filter_sublist.map Prod.fst) ?_
  exact ((List.mergeSort_perm _ _).map Prod.fst).nodup_iff.mpr orderly.distinct

theorem requeued_confirmQueued (s : State) (services : Services) (clock : Clock) :
    (s.confirmQueued services clock).2.requeued =
      s.session.queue.pending.countP fun p => decide (s.fate services p = .requeued) := by
  refine ((s.enters_confirmQueued services clock).requeued.trans (Nat.zero_add _)).trans ?_
  rw [countP_sortPending]
  exact congrArg (s.session.queue.pending.countP ·) (funext fun p => (s.requeued_eq services p).symm)

theorem dropped_confirmQueued (s : State) (services : Services) (clock : Clock) :
    (s.confirmQueued services clock).2.dropped =
      s.session.queue.pending.countP fun p => decide (s.fate services p = .dropped) := by
  refine ((s.enters_confirmQueued services clock).dropped.trans (Nat.zero_add _)).trans ?_
  rw [countP_sortPending]
  exact congrArg (s.session.queue.pending.countP ·) (funext fun p => (s.dropped_eq services p).symm)

/-- The groups of a batch are as many as its categories. -/
theorem length_groupByCategory (batch : List Pending) :
    (groupByCategory batch).length = (batch.map fun p => p.1.category).toFinset.card := by
  have grouped := grouped_groupByCategory batch
  have same : ((groupByCategory batch).map Prod.fst).toFinset =
      (batch.map fun p => p.1.category).toFinset := by
    ext category
    rw [List.mem_toFinset, List.mem_toFinset, List.mem_map]
    constructor
    · intro named
      obtain ⟨p, held, own⟩ := grouped.category_mem (List.mem_map.mpr named)
      exact List.mem_map.mpr ⟨p, mem_sortPending.mp held, own⟩
    · intro named
      obtain ⟨p, held, rfl⟩ := List.mem_map.mp named
      exact List.mem_map.mp (grouped.listed p (mem_sortPending.mpr held))
  rw [← same, List.toFinset_card_of_nodup (nodup_groupByCategory batch), List.length_map]

/-! ### Orderly queues -/

theorem orderly_new (config : Config) (database : Database) : (State.new config database).Orderly :=
  ⟨rfl, List.nodup_nil, fun _ listed => absurd listed List.not_mem_nil⟩

theorem positive_limit (s : State) : 0 < max s.config.maxConfirmAttempts 1 :=
  Queue.limit_pos _

theorem orderly_examineMatch (orderly : s.Orderly) (score : Score)
    (category pattern origin : String) :
    (s.examineMatch score category pattern origin).1.session.queue.Bounded
      (max s.config.maxConfirmAttempts 1) := by
  rcases queue_examineMatch s score category pattern origin with same | added
  · rwa [same]
  · rw [added]
    exact orderly.enqueue s.positive_limit _

theorem orderly_receiveFilter (orderly : s.Orderly) (clock : Clock) (origin : String)
    (answer : Except Failure FilterResponse) :
    (s.receiveFilter clock origin answer).1.Orderly := by
  unfold receiveFilter
  split
  · refine List.foldlRecOn (motive := fun found : State × Nat => found.1.Orderly)
      _ (examineResult clock origin) orderly fun found held r _ => ?_
    unfold examineResult
    split
    · next category matched =>
      have same := (examineMatch_reaches (isActive_of_matchedCategory? matched)
        (clock (.result r.2)) (r.1.pattern origin) origin).config
      show Queue.Bounded (max (State.config _).maxConfirmAttempts 1) _
      rw [same]
      exact orderly_examineMatch held _ _ _ _
    · exact held
  · exact orderly

theorem orderly_confirmQueued (orderly : s.Orderly) (services : Services) (clock : Clock) :
    (s.confirmQueued services clock).1.Orderly := by
  have same := (confirmQueued_reaches s services clock).config
  show Queue.Bounded (max (State.config _).maxConfirmAttempts 1) _
  rw [same]
  refine ⟨?_, nodup_pending_confirmQueued orderly services clock, fun q listed => ?_⟩
  · have queue : (s.confirmQueued services clock).1.session.queue = _ :=
      (s.enters_confirmQueued services clock).queue
    rw [queue, Queue.maxAttempts_putBack]
    exact orderly.maxAttempts
  · obtain ⟨p, waits, fate, -, count⟩ :=
      (mem_pending_confirmQueued orderly services clock q.1 q.2).mp listed
    have left : s.session.queue.retries p = true := by
      have both := (s.requeued_eq services p).symm.trans (decide_eq_true fate)
      exact (Bool.and_eq_true_iff.mp both).2
    rw [UInt32.lt_iff_toNat_lt, count, toNat_limit]
    exact (Orderly.retries_iff orderly waits).mp left

/-- **The queue stays orderly**, whatever is called. -/
theorem orderly_perform (orderly : s.Orderly) (c : Call) : (s.perform c).Orderly := by
  have same := (perform_reaches s c).config
  cases c with
  | detect around origin =>
    have admitted : (s.admits origin around.instant).1.Orderly := by
      unfold admits
      split
      · exact orderly
      · exact orderly
    show (s.detect around origin).1.Orderly
    unfold detect
    rcases step : s.admits origin around.instant with ⟨t, _ | _⟩
    · rwa [step] at admitted
    · rw [step] at admitted
      exact orderly_receiveFilter (s := t.ask _) admitted _ _ _
  | confirm around => exact orderly_confirmQueued orderly _ _
  | refresh around category =>
    show Queue.Bounded _ (s.perform (.refresh around category)).session.queue
    rw [same]
    show Queue.Bounded _ (s.refresh around category).1.session.queue
    rwa [session_refresh]
  | refreshAll around =>
    show Queue.Bounded _ (s.perform (.refreshAll around)).session.queue
    rw [same]
    show Queue.Bounded _ (s.refreshEach around _).1.session.queue
    rwa [session_refreshEach]
  | deactivate category =>
    show Queue.Bounded _ (s.perform (.deactivate category)).session.queue
    rw [same]
    show Queue.Bounded _ (s.deactivate category).1.session.queue
    rwa [session_deactivate]

/-! ### The balance -/

/-- **Every waiting candidate has one fate, and the account of a confirmation is balanced**: for every
orderly queue, every sets, and every answers of the services. -/
theorem confirmQueued_accounted (orderly : s.Orderly) (services : Services) (clock : Clock) :
    s.Accounted services clock (s.confirmQueued services clock).1
      (s.confirmQueued services clock).2 := by
  let t := s.confirmQueued services clock
  let batch := s.session.queue.pending
  obtain ⟨-, ⟨sent, notices, changes, active⟩, candidates, categories⟩ :=
    confirmGroups_active (s := s) services clock _ s.drained rfl s.isGroup
  have total : t.2.candidates = batch.length := candidates
  have requeued := s.requeued_confirmQueued services clock
  have dropped := s.dropped_confirmQueued services clock
  have report : t.2.changed = sent := changes
  refine
    { failed := fun p _ => fate_ne_settled_iff
      exhausted := fun p held => fate_eq_dropped_iff orderly held
      waiting := mem_pending_confirmQueued orderly services clock
      once := nodup_pending_confirmQueued orderly services clock
      candidates := total
      requeued
      dropped
      balance := ?_
      categories := ?_
      settled := fun healthy category confirmation recorded answered held =>
        settledAll_confirmQueued healthy recorded answered held clock
      untouched := fun category idle => ⟨sameSets_idle idle clock, fun listed => ?_⟩
      notices := ?_ }
  · rw [total, requeued, dropped]
    exact countP_fates s services batch
  · rw [← length_groupByCategory]
    exact categories.trans (Nat.zero_add _)
  · rw [report] at listed
    exact active category listed idle
  · rw [report]
    exact notices

/-! ### A source that cannot be reached -/

/-- Services of which none answers. -/
def unreachable : Services where
  checkFilter _ := .error .http
  membership _ _ := .error .http
  intel _ _ _ := .error .http
  listFile _ := .error .notFound

/-- Two matches that wait for a list file, one of them after two failures. -/
def retried : State :=
  twoMatches.withQueue { twoMatches.session.queue with
    pending := [(⟨"games", "x.com", "a.x.com"⟩, 0), (⟨"games", "x.com", "x.com"⟩, 2)] }

theorem candidates_retried : retried.candidates "games" = retried.session.queue.pending := by
  have sorted : retried.session.queue.pending.Pairwise fun p q => notAfter p q = true := by
    decide +kernel
  unfold candidates
  rw [sortPending_of_sorted sorted]
  decide +kernel

/-- The one is put back, the other dropped, and the account is balanced. -/
theorem retried_accounted :
    retried.Orderly ∧ retried.fate unreachable (⟨"games", "x.com", "a.x.com"⟩, 0) = .requeued ∧
      retried.fate unreachable (⟨"games", "x.com", "x.com"⟩, 2) = .dropped ∧
      ∀ clock, retried.Accounted unreachable clock (retried.confirmQueued unreachable clock).1
        (retried.confirmQueued unreachable clock).2 := by
  have orderly : retried.Orderly := ⟨by decide +kernel, by decide +kernel, by decide +kernel⟩
  refine ⟨orderly, ?_, ?_, confirmQueued_accounted orderly unreachable⟩
  · unfold fate fails
    rw [candidates_retried]
    decide +kernel
  · unfold fate fails
    rw [candidates_retried]
    decide +kernel

end State

end CategoryFilter
