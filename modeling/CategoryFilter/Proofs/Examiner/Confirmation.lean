/-
**What a confirmation of the queue does to the sets.**

`confirmQueued_reaches`: it records hits that are not excluded and passthroughs, feeds patterns into
enforcement and cuts the sets of the categories that it confirms (`Confirms`), whatever the sources
answer.
-/

import CategoryFilter.Examiner.Confirmation
import CategoryFilter.Proofs.Examiner.Reaches
import CategoryFilter.Proofs.Queue

namespace CategoryFilter.State

open Database (Trail execute)
open Category (setKeys)

variable {s : State} {may : Database → Write → Prop}

/-- A write of the confirmation of a category. -/
inductive Confirms (registry : Registry) (category : String) (db : Database) : Write → Prop
  | hit {pattern : String} {score : Score}
      (allowed : (registry.exclusions category).covers pattern = false) :
      Confirms registry category db (.record category ⟨pattern, .hit⟩ score)
  | passthrough {origin : String} {score : Score} :
      Confirms registry category db (.record category ⟨origin, .passthrough⟩ score)
  | feed {pattern : String} {score : Score} :
      Confirms registry category db (.feed category pattern score)
  | cut {side : Side} {start stop : Int64} :
      Confirms registry category db (.cut category side start stop)

theorem feed_reaches {registry : Registry} (clock : Clock) (ruling : Ruling) (pattern : String)
    (at_ : Settling) :
    Reaches (Confirms registry ruling.category) at_.state
      (feed clock ruling pattern at_).state := by
  unfold feed
  split
  · exact act_reaches (Database.trail_feed _ _ _ _ .feed)
  · exact Reaches.refl _

theorem covers_of_isHit {ruling : Ruling} {c : Candidate} (hit : ruling.isHit c = true) :
    ruling.exclusions.covers c.pattern = false ∧ ruling.exclusions.covers c.origin = false := by
  unfold Ruling.isHit Exclusions.coversAny at hit
  simpa using (Bool.and_eq_true_iff.mp hit).2

theorem settle_failed {ruling : Ruling} {at_ : Settling} {p : Pending} (clock : Clock)
    (failed : ruling.confirmation.failed.contains (ruling.source.key p.1) = true) :
    (settle clock ruling at_ p).state = (at_.state.requeue p).1 := by
  unfold settle
  rw [if_pos failed]

theorem settle_hit {ruling : Ruling} {at_ : Settling} {p : Pending} (clock : Clock)
    (answered : ruling.confirmation.failed.contains (ruling.source.key p.1) = false)
    (hit : ruling.isHit p.1 = true) :
    settle clock ruling at_ p =
      feed clock ruling p.1.pattern
        { at_ with
          state := (at_.state.apply
            (Classification.addHit (setKeys ruling.category) p.1.pattern ruling.score)).1
          outcome := at_.outcome.addChange (at_.state.apply
            (Classification.addHit (setKeys ruling.category) p.1.pattern ruling.score)).2 } := by
  unfold settle
  rw [if_neg (Bool.eq_false_iff.mp answered), if_pos hit]

theorem settle_passthrough {ruling : Ruling} {at_ : Settling} {p : Pending} (clock : Clock)
    (answered : ruling.confirmation.failed.contains (ruling.source.key p.1) = false)
    (refuted : ruling.isHit p.1 = false) :
    (settle clock ruling at_ p).state =
      (at_.state.apply
        (Classification.addPassthrough (setKeys ruling.category) p.1.origin ruling.score)).1 := by
  unfold settle
  rw [if_neg (Bool.eq_false_iff.mp answered), if_neg (Bool.eq_false_iff.mp refuted)]

theorem settle_reaches {registry : Registry} (clock : Clock) (ruling : Ruling)
    (lists : ruling.exclusions = registry.exclusions ruling.category) (at_ : Settling) (p : Pending) :
    Reaches (Confirms registry ruling.category) at_.state (settle clock ruling at_ p).state := by
  cases failed : ruling.confirmation.failed.contains (ruling.source.key p.1) with
  | true =>
    rw [settle_failed clock failed]
    exact requeue_reaches _ _
  | false =>
    cases hit : ruling.isHit p.1 with
    | true =>
      have allowed := lists ▸ (covers_of_isHit hit).1
      rw [settle_hit clock failed hit]
      refine Reaches.trans ?_ (feed_reaches clock ruling p.1.pattern _)
      exact apply_reaches (Database.trail_addTo at_.state.database ruling.category
        ⟨p.1.pattern, .hit⟩ ruling.score (Confirms.hit allowed))
    | false =>
      rw [settle_passthrough clock failed hit]
      exact apply_reaches (Database.trail_addTo at_.state.database ruling.category
        ⟨p.1.origin, .passthrough⟩ ruling.score .passthrough)

theorem trimSets_reaches {registry : Registry} (s : State) (category : String) :
    Reaches (Confirms registry category) s (s.trimSets category).1 := by
  refine apply_reaches (Database.trail_bind ?_ fun _ last => Trail.refl last)
  refine (Database.trail_trim s.database category _).mono ?_
  rintro db _ ⟨side, start, stop, rfl⟩
  exact .cut

/-- The state in which the sets of a category are cut. -/
def settled (s : State) (clock : Clock) (ruling : Ruling) (items : List Pending) : State :=
  (items.foldl (settle clock ruling) ⟨s, .empty, []⟩).state

theorem settled_reaches (s : State) (clock : Clock) (ruling : Ruling)
    (lists : ruling.exclusions = s.registry.exclusions ruling.category) (items : List Pending) :
    Reaches (Confirms s.registry ruling.category) s (s.settled clock ruling items) :=
  foldl_reaches Settling.state (settle clock ruling) items ⟨s, .empty, []⟩
    fun at_ p _ _ => settle_reaches clock ruling lists at_ p

theorem settleAll_reaches (s : State) (clock : Clock) (ruling : Ruling)
    (lists : ruling.exclusions = s.registry.exclusions ruling.category) (items : List Pending) :
    Reaches (Confirms s.registry ruling.category) s (s.settleAll clock ruling items).1 :=
  (settled_reaches s clock ruling lists items).trans (trimSets_reaches _ _)

theorem requeueAll_reaches (s : State) (items : List Pending) :
    Reaches may s (s.requeueAll items).1 :=
  foldl_reaches Prod.fst _ items (s, Outcome.empty) fun at_ p _ _ => requeue_reaches at_.1 p

/-- The source of a category. -/
def source (s : State) (category : String) : Source :=
  .select (s.registry.strategy category) (s.registry.style category)

/-- What is asked about some candidates of a category, and the answer. -/
def consult (s : State) (services : Services) (category : String) (items : List Pending) :
    List Question × Except Failure Confirmation :=
  Confirm.confirm services category (s.source category) (s.registry.style category)
    (Text.sortNames (items.map fun p => (s.source category).key p.1))

/-- The source of a category is asked the same under the same registry. -/
theorem consult_eq {u : State} (same : u.registry = s.registry) (services : Services)
    (category : String) (items : List Pending) :
    u.consult services category items = s.consult services category items := by
  unfold consult source
  rw [same]

/-- What settles the candidates of a category after an answer. -/
def ruling (s : State) (clock : Clock) (category : String) (confirmation : Confirmation) : Ruling :=
  ⟨category, s.source category, confirmation, s.registry.exclusions category,
    clock (.confirmation category)⟩

theorem ruling_eq {u : State} (same : u.registry = s.registry) (clock : Clock) (category : String)
    (confirmation : Confirmation) :
    u.ruling clock category confirmation = s.ruling clock category confirmation := by
  unfold ruling source
  rw [same]

theorem confirmCategory_eq (s : State) (services : Services) (clock : Clock) (category : String)
    (items : List Pending) :
    s.confirmCategory services clock category items =
      if !(s.registry.strategy category).updateConfirmSet then (s, .empty)
      else
        match (s.consult services category items).2 with
        | .error _ => (s.ask (s.consult services category items).1).requeueAll items
        | .ok confirmation =>
          (s.ask (s.consult services category items).1).settleAll clock
            (s.ruling clock category confirmation) items := rfl

theorem confirmCategory_ignored {category : String}
    (ignored : (s.registry.strategy category).updateConfirmSet = false) (services : Services)
    (clock : Clock) (items : List Pending) :
    s.confirmCategory services clock category items = (s, .empty) := by
  rw [confirmCategory_eq, ignored]
  rfl

theorem confirmCategory_failed {services : Services} {category : String} {items : List Pending}
    {cause : Failure} (recorded : (s.registry.strategy category).updateConfirmSet = true)
    (failed : (s.consult services category items).2 = .error cause) (clock : Clock) :
    s.confirmCategory services clock category items =
      (s.ask (s.consult services category items).1).requeueAll items := by
  rw [confirmCategory_eq, recorded, failed]
  rfl

theorem confirmCategory_answered {services : Services} {category : String} {items : List Pending}
    {confirmation : Confirmation}
    (recorded : (s.registry.strategy category).updateConfirmSet = true)
    (answered : (s.consult services category items).2 = .ok confirmation) (clock : Clock) :
    s.confirmCategory services clock category items =
      (s.ask (s.consult services category items).1).settleAll clock
        (s.ruling clock category confirmation) items := by
  rw [confirmCategory_eq, recorded, answered]
  rfl

theorem confirmCategory_reaches (s : State) (services : Services) (clock : Clock)
    (category : String) (items : List Pending) :
    Reaches (Confirms s.registry category) s (s.confirmCategory services clock category items).1 := by
  cases recorded : (s.registry.strategy category).updateConfirmSet with
  | false =>
    rw [confirmCategory_ignored recorded]
    exact Reaches.refl s
  | true =>
    cases answer : (s.consult services category items).2 with
    | error cause =>
      rw [confirmCategory_failed recorded answer]
      exact (ask_reaches s _).trans (requeueAll_reaches _ _)
    | ok confirmation =>
      rw [confirmCategory_answered recorded answer]
      exact (ask_reaches s _).trans (settleAll_reaches (s.ask (s.consult services category items).1)
        clock (s.ruling clock category confirmation) rfl items)

theorem confirmGroup_reaches (services : Services) (clock : Clock) (so_far : State × ConfirmReport)
    (group : String × List Pending) :
    Reaches (Confirms so_far.1.registry group.1) so_far.1 (confirmGroup services clock so_far group).1 :=
  (confirmCategory_reaches _ services clock group.1 group.2).trans (notifyIf_reaches _ _ _)

/-- A confirmation of some groups writes for their categories only. -/
theorem confirmGroups_reaches (services : Services) (clock : Clock)
    (groups : List (String × List Pending)) (start : State × ConfirmReport) :
    Reaches (fun db w => ∃ g ∈ groups, Confirms start.1.registry g.1 db w) start.1
      (groups.foldl (confirmGroup services clock) start).1 := by
  refine foldl_reaches Prod.fst (confirmGroup services clock) groups start
    fun so_far group listed same => ?_
  have same : so_far.1.registry = start.1.registry := same
  rw [← same]
  exact (confirmGroup_reaches services clock so_far group).mono fun _ _ allowed =>
    ⟨group, listed, allowed⟩

/-- A write of a confirmation of some category. -/
def ConfirmsAny (registry : Registry) (db : Database) (w : Write) : Prop :=
  ∃ category, Confirms registry category db w

/-- The state after the queue is drained, with the report that a confirmation starts with. -/
def drained (s : State) : State × ConfirmReport :=
  (s.withQueue s.session.queue.drain.1, ⟨s.session.queue.pending.length, 0, [], 0, 0⟩)

theorem confirmQueued_fst (s : State) (services : Services) (clock : Clock) :
    (s.confirmQueued services clock).1 =
      ((groupByCategory s.session.queue.pending).foldl (confirmGroup services clock) s.drained).1 :=
  rfl

/-- **A confirmation of the queue only confirms.** -/
theorem confirmQueued_reaches (s : State) (services : Services) (clock : Clock) :
    Reaches (ConfirmsAny s.registry) s (s.confirmQueued services clock).1 := by
  have confirmed := confirmGroups_reaches services clock (groupByCategory s.session.queue.pending)
    s.drained
  rw [confirmQueued_fst]
  refine Reaches.trans (withQueue_reaches s _) (confirmed.mono ?_)
  rintro db w ⟨group, -, allowed⟩
  exact ⟨group.1, allowed⟩

/-! ### The turn of a category -/

theorem category_of_confirms {registry : Registry} {category : String} {db : Database} {w : Write}
    (allowed : Confirms registry category db w) : w.category = category := by
  cases allowed <;> rfl

theorem pair_confirmGroups {category : String} {groups : List (String × List Pending)}
    (absent : category ∉ groups.map Prod.fst) (services : Services) (clock : Clock)
    (start : State × ConfirmReport) :
    (groups.foldl (confirmGroup services clock) start).1.database.pair category =
      start.1.database.pair category := by
  refine (confirmGroups_reaches services clock groups start).trail.pair_eq ?_
  rintro db w ⟨group, listed, allowed⟩ same
  exact absent (List.mem_map.mpr ⟨group, listed, (category_of_confirms allowed).symm.trans same⟩)

/-- **A category with candidates has its turn once**, and what follows leaves its pair alone. -/
theorem exists_turn {category : String} {p : Pending} (waiting : p ∈ s.session.queue.pending)
    (own : p.1.category = category) (services : Services) (clock : Clock) :
    ∃ u, Turn s u category ∧
      (s.confirmQueued services clock).1.database.pair category =
        (u.confirmCategory services clock category
          (ofCategory (sortPending s.session.queue.pending) category)).1.database.pair category := by
  subst own
  obtain ⟨before, after, split, earlier, later⟩ := exists_group waiting
  let first := before.foldl (confirmGroup services clock) s.drained
  have reached := Reaches.trans (withQueue_reaches s _)
    (confirmGroups_reaches services clock before s.drained)
  refine ⟨first.1, .of_reaches reached ?_, ?_⟩
  · exact pair_confirmGroups earlier services clock s.drained
  · rw [confirmQueued_fst, split, List.foldl_append, List.foldl_cons, pair_confirmGroups later]
    exact congrArg (fun db : Database => db.pair p.1.category) (database_notifyIf _ _ _)

/-- Without candidates of a category a confirmation leaves its pair alone. -/
theorem pair_confirmQueued_none {category : String}
    (none : ∀ p ∈ s.session.queue.pending, p.1.category ≠ category) (services : Services)
    (clock : Clock) :
    (s.confirmQueued services clock).1.database.pair category = s.database.pair category := by
  refine pair_confirmGroups (fun listed => ?_) services clock s.drained
  obtain ⟨p, there, own⟩ := (grouped_groupByCategory _).category_mem listed
  exact none p (mem_sortPending.mp there) own

/-! ### What is recorded -/

/-- What settling a candidate records: nothing if the source failed on its key, else its pattern as a hit
or its origin as a passthrough. -/
def Ruling.recording? (ruling : Ruling) (c : Candidate) : Option Member :=
  if ruling.confirmation.failed.contains (ruling.source.key c) then none
  else if ruling.isHit c then some ⟨c.pattern, .hit⟩
  else some ⟨c.origin, .passthrough⟩

/-- What settling some candidates records, in order. -/
def Ruling.entries (ruling : Ruling) (items : List Pending) : List Member :=
  items.flatMap fun p => (ruling.recording? p.1).toList

theorem length_entries_le (ruling : Ruling) (items : List Pending) :
    (ruling.entries items).length ≤ items.length := by
  unfold Ruling.entries
  induction items with
  | nil => exact Nat.le_refl _
  | cons p rest ih =>
    rw [List.flatMap_cons, List.length_append, List.length_cons]
    have one : (ruling.recording? p.1).toList.length ≤ 1 := by
      cases ruling.recording? p.1 <;> simp
    omega

theorem database_apply_addTo {m : Member} (accepted : s.database.Accepts m.domain)
    (category : String) (score : Score) :
    (s.apply (Database.addTo category m score)).1.database =
      s.database.write (.record category m score) := by
  rw [apply_fst]
  exact congrArg Prod.snd (Database.execute_addTo accepted category score)

theorem database_feed (clock : Clock) (ruling : Ruling) (pattern : String) (at_ : Settling)
    (healthy : at_.state.database.Healthy) :
    (feed clock ruling pattern at_).state.database.Healthy ∧
      (feed clock ruling pattern at_).state.database.pair ruling.category =
        at_.state.database.pair ruling.category := by
  unfold feed
  split
  · let w : Write := .feed ruling.category pattern (clock (.feed ruling.category pattern))
    have fed : (at_.state.updateDomain ruling.category pattern
        (clock (.feed ruling.category pattern))).1.database = at_.state.database.write w := by
      unfold updateDomain
      rw [act_fst]
      exact congrArg Prod.snd (Database.execute_insert (healthy.accepts pattern) _)
    show Database.Healthy (at_.state.updateDomain _ _ _).1.database ∧
      (at_.state.updateDomain _ _ _).1.database.pair _ = _
    rw [fed]
    exact ⟨healthy.write w, Database.pair_write_same _ w⟩
  · exact ⟨healthy, rfl⟩

theorem pair_settle (clock : Clock) (ruling : Ruling) (at_ : Settling) (p : Pending)
    (healthy : at_.state.database.Healthy) :
    (settle clock ruling at_ p).state.database.Healthy ∧
      (settle clock ruling at_ p).state.database.pair ruling.category =
        (at_.state.database.pair ruling.category).recordAll ruling.score
          (ruling.recording? p.1).toList := by
  cases failed : ruling.confirmation.failed.contains (ruling.source.key p.1) with
  | true =>
    rw [settle_failed clock failed, Ruling.recording?, if_pos failed]
    exact ⟨healthy, rfl⟩
  | false =>
    cases hit : ruling.isHit p.1 with
    | true =>
      have added : (at_.state.apply (Classification.addHit (setKeys ruling.category) p.1.pattern
          ruling.score)).1.database = _ :=
        database_apply_addTo (m := ⟨p.1.pattern, .hit⟩) (healthy.accepts _) ruling.category ruling.score
      let w : Write := .record ruling.category ⟨p.1.pattern, .hit⟩ ruling.score
      rw [settle_hit clock failed hit, Ruling.recording?, if_neg (Bool.eq_false_iff.mp failed),
        if_pos hit]
      let next : Settling :=
        { at_ with
          state := (at_.state.apply
            (Classification.addHit (setKeys ruling.category) p.1.pattern ruling.score)).1
          outcome := at_.outcome.addChange (at_.state.apply
            (Classification.addHit (setKeys ruling.category) p.1.pattern ruling.score)).2 }
      have sound : next.state.database.Healthy := added.symm ▸ healthy.write w
      obtain ⟨fed, same⟩ := database_feed clock ruling p.1.pattern next sound
      refine ⟨fed, same.trans ?_⟩
      show Database.pair (at_.state.apply _).1.database _ = _
      rw [added, Database.pair_record]
      rfl
    | false =>
      have added : (at_.state.apply (Classification.addPassthrough (setKeys ruling.category)
          p.1.origin ruling.score)).1.database = _ :=
        database_apply_addTo (m := ⟨p.1.origin, .passthrough⟩) (healthy.accepts _) ruling.category
          ruling.score
      rw [settle_passthrough clock failed hit, Ruling.recording?, if_neg (Bool.eq_false_iff.mp failed),
        if_neg (Bool.eq_false_iff.mp hit), added, Database.pair_record]
      exact ⟨healthy.write _, rfl⟩

/-- **Settling candidates records their entries in order.** -/
theorem pair_settled (clock : Clock) (ruling : Ruling) (items : List Pending)
    (healthy : s.database.Healthy) :
    (s.settled clock ruling items).database.pair ruling.category =
      (s.database.pair ruling.category).recordAll ruling.score (ruling.entries items) := by
  unfold SetPair.recordAll Ruling.entries
  rw [List.foldl_flatMap]
  exact pair_foldl Settling.state (settle clock ruling) Database.Healthy ruling.category
    (fun p q => p.recordAll ruling.score (ruling.recording? q.1).toList) items ⟨s, .empty, []⟩
    (fun at_ p _ held => pair_settle clock ruling at_ p held) healthy

/-! ### The sets afterwards -/

theorem database_trimSets (s : State) (category : String) :
    (s.trimSets category).1.database =
      (execute (Classification.trim (setKeys category) s.config.maxSetSize.toNat) s.database).2 := by
  unfold trimSets
  rw [apply_fst]
  exact Database.execute_map_snd _ _ _

/-- What the confirmation of a category records, before its sets are cut. -/
def recorded (s : State) (clock : Clock) (category : String) (confirmation : Confirmation)
    (items : List Pending) : SetPair :=
  (s.database.pair category).recordAll (clock (.confirmation category))
    ((s.ruling clock category confirmation).entries items)

variable {services : Services} {category : String} {items : List Pending}
  {confirmation : Confirmation}

/-- A confirmed category has its sets cut in a database that holds what was recorded. -/
theorem exists_cut (healthy : s.database.Healthy)
    (strategy : (s.registry.strategy category).updateConfirmSet = true)
    (answered : (s.consult services category items).2 = .ok confirmation) (clock : Clock) :
    ∃ db : Database, db.Healthy ∧
      db.pair category = s.recorded clock category confirmation items ∧
      (s.confirmCategory services clock category items).1.database =
        (execute (Classification.trim (setKeys category) s.config.maxSetSize.toNat) db).2 := by
  let ruling := s.ruling clock category confirmation
  let asked := s.ask (s.consult services category items).1
  have reached := settled_reaches asked clock ruling rfl items
  refine ⟨(asked.settled clock ruling items).database, reached.trail.healthy healthy,
    pair_settled clock ruling items healthy, ?_⟩
  rw [confirmCategory_answered strategy answered]
  show ((asked.settled clock ruling items).trimSets category).1.database = _
  rw [database_trimSets, reached.config]
  rfl

/-- **The sets of a confirmed category** are the newest entries of what was recorded, if the database can
count them. -/
theorem pair_confirmCategory (healthy : s.database.Healthy)
    (strategy : (s.registry.strategy category).updateConfirmSet = true)
    (answered : (s.consult services category items).2 = .ok confirmation) (clock : Clock)
    (countable : ∀ side,
      (s.recorded clock category confirmation items side).size < SortedSet.countBound) :
    (s.confirmCategory services clock category items).1.database.pair category =
      fun side => (s.recorded clock category confirmation items side).newest
        s.config.maxSetSize.toNat := by
  obtain ⟨db, sound, recorded, cut⟩ := exists_cut healthy strategy answered clock
  rw [cut, Database.pair_trim sound, recorded]
  intro side
  rw [recorded]
  exact countable side

/-- Sets that stay within the limit are as they were recorded. -/
theorem pair_confirmCategory_fits (healthy : s.database.Healthy)
    (strategy : (s.registry.strategy category).updateConfirmSet = true)
    (answered : (s.consult services category items).2 = .ok confirmation) (clock : Clock)
    (fits : ∀ side,
      (s.recorded clock category confirmation items side).size ≤ s.config.maxSetSize.toNat) :
    (s.confirmCategory services clock category items).1.database.pair category =
      s.recorded clock category confirmation items := by
  obtain ⟨db, sound, recorded, cut⟩ := exists_cut healthy strategy answered clock
  have within : ∀ side, (db.pair category side).size ≤ s.config.maxSetSize.toNat := by
    intro side
    rw [recorded]
    exact fits side
  rw [cut, Database.execute_trim_fits sound.present _ (within .hit) (within .passthrough)]
  exact recorded

end CategoryFilter.State
