/-
**What enforcement is fed with.**

The enforcement data of a category grows by the patterns that a source in the cloud confirmed, and it never
shrinks:

* `enforces_settles`: settling candidates feeds the patterns of its hits, if the source is one whose
  confirmations are fed.
* `enforces_confirmQueued`: a confirmation of the queue feeds exactly the patterns of the candidates that
  `Feeds` describes.
* `dynamic_perform`: no other call changes the enforcement data.
* `enforces_run_iff`: so a run adds what its confirmations feed, each pattern once, and removes nothing.
-/

import CategoryFilter.Proofs.Deactivation
import CategoryFilter.Proofs.Examiner.Ledger
import CategoryFilter.Proofs.Store.Dynamic

namespace CategoryFilter

/-- A pattern is in the enforcement data of a category. -/
def Database.Enforces (db : Database) (category pattern : String) : Prop :=
  (db.dynamic category).contains pattern = true

namespace State

open Database (Trail execute Enforces)
open Category (setKeys)

variable {s : State} {services : Services} {clock : Clock} {category pattern : String}

/-! ### Settling -/

/-- Settling a candidate feeds its pattern: its key got an answer that makes it a hit, by a source whose
confirmations are fed. -/
def Ruling.Feeds (ruling : Ruling) (p : Pending) : Prop :=
  ruling.misses p = false ∧ ruling.isHit p.1 = true ∧ ruling.source.feedsEnforcement = true

theorem dynamic_feed (clock : Clock) (ruling : Ruling) (pattern : String) (at_ : Settling)
    (healthy : at_.state.database.Healthy) :
    (feed clock ruling pattern at_).state.database.dynamic ruling.category =
      if ruling.source.feedsEnforcement && !at_.fed.contains pattern then
        (at_.state.database.dynamic ruling.category).insert pattern
          (clock (.feed ruling.category pattern))
      else at_.state.database.dynamic ruling.category := by
  unfold feed
  split
  · let w : Write := .feed ruling.category pattern (clock (.feed ruling.category pattern))
    have fed : (at_.state.updateDomain ruling.category pattern
        (clock (.feed ruling.category pattern))).1.database = at_.state.database.write w := by
      unfold updateDomain
      rw [act_fst]
      exact congrArg Prod.snd (Database.execute_insert (healthy.accepts pattern) _)
    show (at_.state.updateDomain _ _ _).1.database.dynamic _ = _
    rw [fed, Database.dynamic_write]
    exact if_pos rfl
  · rfl

theorem fed_feed (clock : Clock) (ruling : Ruling) (pattern : String) (at_ : Settling) :
    (feed clock ruling pattern at_).fed =
      if ruling.source.feedsEnforcement && !at_.fed.contains pattern then pattern :: at_.fed
      else at_.fed := by
  unfold feed
  split <;> rfl

/-- Recording a name leaves the enforcement data alone. -/
theorem dynamic_apply_addTo {m : Member} (healthy : s.database.Healthy) (other : String)
    (score : Score) (category : String) :
    (s.apply (Database.addTo other m score)).1.database.dynamic category =
      s.database.dynamic category := by
  rw [database_apply_addTo (healthy.accepts m.domain), Database.dynamic_write]
  rfl

/-- All patterns that were fed are in the enforcement data. -/
def Settling.FedInside (ruling : Ruling) (at_ : Settling) : Prop :=
  ∀ pattern ∈ at_.fed, at_.state.database.Enforces ruling.category pattern

/-- What feeding a pattern changes. -/
theorem enforces_feed {at_ : Settling} {ruling : Ruling} (healthy : at_.state.database.Healthy)
    (inside : at_.FedInside ruling) (clock : Clock) (fresh : String) :
    (feed clock ruling fresh at_).FedInside ruling ∧
      ∀ pattern, (feed clock ruling fresh at_).state.database.Enforces ruling.category pattern ↔
        at_.state.database.Enforces ruling.category pattern ∨
          ruling.source.feedsEnforcement = true ∧ fresh = pattern := by
  have data := dynamic_feed clock ruling fresh at_ healthy
  have list := fed_feed clock ruling fresh at_
  unfold Settling.FedInside Enforces at *
  rw [data, list]
  by_cases goes : (ruling.source.feedsEnforcement && !at_.fed.contains fresh) = true
  · rw [if_pos goes, if_pos goes]
    have feeds := (Bool.and_eq_true_iff.mp goes).1
    have grown : ∀ pattern, ((at_.state.database.dynamic ruling.category).insert fresh
          (clock (.feed ruling.category fresh))).contains pattern = true ↔
        (at_.state.database.dynamic ruling.category).contains pattern = true ∨
          ruling.source.feedsEnforcement = true ∧ fresh = pattern := by
      intro pattern
      rw [SortedSet.contains_insert, Bool.or_eq_true, beq_iff_eq, or_comm]
      exact or_congr_right ⟨fun same => ⟨feeds, same.symm⟩, fun both => both.2.symm⟩
    refine ⟨fun pattern listed => (grown pattern).mpr ?_, grown⟩
    rcases List.mem_cons.mp listed with rfl | before
    · exact Or.inr ⟨feeds, rfl⟩
    · exact Or.inl (inside pattern before)
  · rw [if_neg goes, if_neg goes]
    refine ⟨inside, fun pattern => ⟨Or.inl, ?_⟩⟩
    rintro (held | ⟨feeds, rfl⟩)
    · exact held
    · -- The pattern was fed before, so it is there already.
      rw [feeds, Bool.true_and, Bool.not_eq_true', Bool.not_eq_false] at goes
      exact inside fresh (List.contains_iff_mem.mp goes)

theorem enforces_settle {at_ : Settling} {ruling : Ruling} (healthy : at_.state.database.Healthy)
    (inside : at_.FedInside ruling) (clock : Clock) (p : Pending) :
    (settle clock ruling at_ p).FedInside ruling ∧
      ∀ pattern, (settle clock ruling at_ p).state.database.Enforces ruling.category pattern ↔
        at_.state.database.Enforces ruling.category pattern ∨
          ruling.Feeds p ∧ p.1.pattern = pattern := by
  -- Without a feed both the list and the enforcement data are as before.
  have still : ∀ next : Settling, next.fed = at_.fed →
      next.state.database.dynamic ruling.category = at_.state.database.dynamic ruling.category →
      ¬ ruling.Feeds p → next.FedInside ruling ∧
        ∀ pattern, next.state.database.Enforces ruling.category pattern ↔
          at_.state.database.Enforces ruling.category pattern ∨
            ruling.Feeds p ∧ p.1.pattern = pattern := by
    intro next list data none
    unfold Settling.FedInside Enforces at *
    rw [list, data]
    exact ⟨inside, fun pattern => ⟨Or.inl, fun held => held.resolve_right fun fed => none fed.1⟩⟩
  cases missed : ruling.misses p with
  | true =>
    have failed : ruling.confirmation.failed.contains (ruling.source.key p.1) = true := missed
    refine still _ ?_ ?_ fun feeds => ?_
    · unfold settle
      rw [if_pos failed]
    · rw [settle_failed clock failed]
      rfl
    · rw [feeds.1] at missed
      cases missed
  | false =>
    have answered : ruling.confirmation.failed.contains (ruling.source.key p.1) = false := missed
    cases hit : ruling.isHit p.1 with
    | true =>
      have data := dynamic_apply_addTo (m := ⟨p.1.pattern, .hit⟩) healthy ruling.category
        ruling.score ruling.category
      have sound : (at_.state.apply (Database.addTo ruling.category ⟨p.1.pattern, .hit⟩
          ruling.score)).1.database.Healthy := by
        rw [database_apply_addTo (healthy.accepts _)]
        exact healthy.write _
      let next : Settling :=
        { at_ with
          state := (at_.state.apply
            (Classification.addHit (setKeys ruling.category) p.1.pattern ruling.score)).1
          outcome := at_.outcome.addChange (at_.state.apply
            (Classification.addHit (setKeys ruling.category) p.1.pattern ruling.score)).2 }
      have kept : next.FedInside ruling := by
        intro pattern listed
        unfold Enforces
        exact (congrArg (fun set : SortedSet => set.contains pattern) data).trans (inside pattern listed)
      obtain ⟨list, grown⟩ := enforces_feed sound kept clock p.1.pattern
      rw [settle_hit clock answered hit]
      refine ⟨list, fun pattern => (grown pattern).trans (or_congr ?_ ?_)⟩
      · unfold Enforces
        rw [show next.state.database.dynamic ruling.category = _ from data]
      · unfold Ruling.Feeds
        rw [missed, hit]
        simp only [true_and]
    | false =>
      refine still _ ?_ ?_ fun feeds => ?_
      · unfold settle
        rw [if_neg (Bool.eq_false_iff.mp answered), if_neg (Bool.eq_false_iff.mp hit)]
      · rw [settle_passthrough clock answered hit]
        exact dynamic_apply_addTo (m := ⟨p.1.origin, .passthrough⟩) healthy ruling.category
          ruling.score ruling.category
      · rw [feeds.2.1] at hit
        cases hit

theorem enforces_settles (clock : Clock) (ruling : Ruling) (items : List Pending) :
    ∀ at_ : Settling, at_.state.database.Healthy → at_.FedInside ruling →
      ∀ pattern, (items.foldl (settle clock ruling) at_).state.database.Enforces ruling.category
          pattern ↔
        at_.state.database.Enforces ruling.category pattern ∨
          ∃ p ∈ items, ruling.Feeds p ∧ p.1.pattern = pattern := by
  induction items with
  | nil => exact fun at_ _ _ pattern => by simp
  | cons p rest ih =>
    intro at_ healthy inside pattern
    obtain ⟨kept, here⟩ := enforces_settle healthy inside clock p
    rw [List.foldl_cons, ih _ (pair_settle clock ruling at_ p healthy).1 kept, here, or_assoc]
    simp only [List.exists_mem_cons_iff]

/-! ### Categories -/

theorem dynamic_trimSets (s : State) (cut category : String) :
    (s.trimSets cut).1.database.dynamic category = s.database.dynamic category := by
  rw [database_trimSets]
  refine (Database.trail_trim s.database cut _).dynamic_eq ?_
  rintro db w ⟨side, start, stop, rfl⟩ pattern score fed
  cases fed

theorem enforces_settleAll (healthy : s.database.Healthy) (clock : Clock) (ruling : Ruling)
    (items : List Pending) (pattern : String) :
    (s.settleAll clock ruling items).1.database.Enforces ruling.category pattern ↔
      s.database.Enforces ruling.category pattern ∨
        ∃ p ∈ items, ruling.Feeds p ∧ p.1.pattern = pattern := by
  rw [← enforces_settles clock ruling items ⟨s, .empty, []⟩ healthy
    fun _ listed => absurd listed List.not_mem_nil]
  unfold Enforces settleAll
  dsimp only
  rw [dynamic_trimSets]

/-- A waiting candidate is confirmed by a source in the cloud, and neither its pattern nor its origin is
excluded. -/
structure Feeds (s : State) (services : Services) (p : Pending) : Prop where
  waiting : p ∈ s.session.queue.pending
  recorded : (s.registry.strategy p.1.category).updateConfirmSet = true
  source : s.source p.1.category = .cloud ∨ s.source p.1.category = .intel
  /-- The source confirms its key and does not report it as failed. -/
  confirmed : ∃ confirmation,
    (s.consult services p.1.category (s.candidates p.1.category)).2 = .ok confirmation ∧
      confirmation.confirmed.contains ((s.source p.1.category).key p.1) = true ∧
      confirmation.failed.contains ((s.source p.1.category).key p.1) = false
  pattern : (s.registry.exclusions p.1.category).covers p.1.pattern = false
  origin : (s.registry.exclusions p.1.category).covers p.1.origin = false

theorem feedsEnforcement_iff {source : Source} :
    source.feedsEnforcement = true ↔ source = .cloud ∨ source = .intel := by
  cases source <;> decide

theorem isHit_iff {ruling : Ruling} {c : Candidate} : ruling.isHit c = true ↔
    ruling.confirmation.confirmed.contains (ruling.source.key c) = true ∧
      ruling.exclusions.covers c.pattern = false ∧ ruling.exclusions.covers c.origin = false := by
  unfold Ruling.isHit Exclusions.coversAny
  simp

/-- The candidates of a category feed their patterns as its ruling says. -/
theorem feeds_iff {confirmation : Confirmation} {p : Pending}
    (recorded : (s.registry.strategy category).updateConfirmSet = true)
    (answered : (s.consult services category (s.candidates category)).2 = .ok confirmation)
    (listed : p ∈ s.candidates category) (clock : Clock) :
    (s.ruling clock category confirmation).Feeds p ↔ s.Feeds services p := by
  obtain ⟨held, own⟩ := List.mem_filter.mp listed
  have own : p.1.category = category := of_decide_eq_true own
  subst own
  have waiting : p ∈ s.session.queue.pending := mem_sortPending.mp held
  unfold Ruling.Feeds Ruling.misses
  rw [isHit_iff, feedsEnforcement_iff]
  constructor
  · rintro ⟨failed, ⟨confirmed, pattern, origin⟩, source⟩
    exact ⟨waiting, recorded, source, ⟨confirmation, answered, confirmed, failed⟩, pattern, origin⟩
  · rintro ⟨-, -, source, ⟨other, same, confirmed, failed⟩, pattern, origin⟩
    rw [answered] at same
    cases same
    exact ⟨failed, ⟨confirmed, pattern, origin⟩, source⟩

/-- **The confirmation of a category feeds what its source confirmed.** -/
theorem enforces_confirmCategory {u : State} (same : u.registry = s.registry)
    (healthy : u.database.Healthy) (clock : Clock) (pattern : String) :
    (u.confirmCategory services clock category (s.candidates category)).1.database.Enforces category
        pattern ↔
      u.database.Enforces category pattern ∨
        ∃ p ∈ s.candidates category, s.Feeds services p ∧ p.1.pattern = pattern := by
  have own : ∀ p ∈ s.candidates category, p.1.category = category := fun p listed =>
    of_decide_eq_true (List.mem_filter.mp listed).2
  have consult := consult_eq same services category (s.candidates category)
  cases recorded : (s.registry.strategy category).updateConfirmSet with
  | false =>
    rw [confirmCategory_ignored (by rw [same, recorded])]
    refine ⟨Or.inl, fun held => held.resolve_right ?_⟩
    rintro ⟨p, listed, feeds, -⟩
    have kept := feeds.recorded
    rw [own p listed, recorded] at kept
    cases kept
  | true =>
    cases answer : (s.consult services category (s.candidates category)).2 with
    | error cause =>
      rw [confirmCategory_failed (by rw [same, recorded]) (by rw [consult, answer])]
      have kept : (((u.ask (u.consult services category (s.candidates category)).1).requeueAll
          (s.candidates category)).1.database).dynamic category = u.database.dynamic category :=
        congrArg (·.dynamic category) (database_requeueAll _ (s.candidates category))
      unfold Enforces
      rw [kept]
      refine ⟨Or.inl, fun held => held.resolve_right ?_⟩
      rintro ⟨p, listed, feeds, -⟩
      obtain ⟨confirmation, answered, -⟩ := feeds.confirmed
      rw [own p listed, answer] at answered
      cases answered
    | ok confirmation =>
      rw [confirmCategory_answered (by rw [same, recorded]) (by rw [consult, answer])]
      have ruling := ruling_eq same clock category confirmation
      have grown := enforces_settleAll (s := u.ask (u.consult services category
        (s.candidates category)).1) healthy clock (s.ruling clock category confirmation)
        (s.candidates category) pattern
      rw [ruling]
      refine grown.trans (or_congr_right (exists_congr fun p => and_congr_right fun listed => ?_))
      rw [feeds_iff recorded answer listed]

theorem enforces_confirmGroups (services : Services) (clock : Clock) (category pattern : String)
    (groups : List (String × List Pending)) :
    ∀ start : State × ConfirmReport, start.1.registry = s.registry → start.1.database.Healthy →
      (∀ g ∈ groups, s.IsGroup g) →
      ((groups.foldl (confirmGroup services clock) start).1.database.Enforces category pattern ↔
        start.1.database.Enforces category pattern ∨
          category ∈ groups.map Prod.fst ∧
            ∃ p ∈ s.candidates category, s.Feeds services p ∧ p.1.pattern = pattern) := by
  induction groups with
  | nil => exact fun start _ _ _ => by simp
  | cons group rest ih =>
    intro start same healthy exact
    have reached := confirmGroup_reaches services clock start group
    have later := ih (confirmGroup services clock start group) (reached.registry.trans same)
      (reached.trail.healthy healthy) fun g listed => exact g (List.mem_cons_of_mem _ listed)
    have here : (confirmGroup services clock start group).1.database.Enforces category pattern ↔
        start.1.database.Enforces category pattern ∨
          category = group.1 ∧
            ∃ p ∈ s.candidates category, s.Feeds services p ∧ p.1.pattern = pattern := by
      by_cases own : category = group.1
      · subst own
        have items : group.2 = s.candidates group.1 := exact group List.mem_cons_self
        unfold Enforces
        rw [show (confirmGroup services clock start group).1.database = _ from
          database_notifyIf _ _ _, items]
        refine (enforces_confirmCategory same healthy clock pattern).trans (or_congr_right ?_)
        exact (and_iff_right rfl).symm
      · have kept : (confirmGroup services clock start group).1.database.dynamic category =
            start.1.database.dynamic category :=
          (reached.trail.sameSets fun _ _ allowed equal =>
            own (equal.symm.trans (category_of_confirms allowed))).dynamic
        unfold Enforces
        rw [kept]
        exact ⟨Or.inl, fun held => held.resolve_right fun named => own named.1⟩
    rw [List.foldl_cons, later, here, or_assoc, ← or_and_right, List.map_cons, List.mem_cons]

/-- **A confirmation of the queue feeds exactly the patterns that sources in the cloud confirmed.** -/
theorem enforces_confirmQueued (healthy : s.database.Healthy) (services : Services) (clock : Clock)
    (category pattern : String) :
    (s.confirmQueued services clock).1.database.Enforces category pattern ↔
      s.database.Enforces category pattern ∨
        ∃ p, s.Feeds services p ∧ p.1.category = category ∧ p.1.pattern = pattern := by
  have grown := enforces_confirmGroups (s := s) services clock category pattern
    (groupByCategory s.session.queue.pending) s.drained rfl healthy s.isGroup
  refine grown.trans (or_congr_right ⟨?_, ?_⟩)
  · rintro ⟨-, p, listed, feeds, same⟩
    exact ⟨p, feeds, of_decide_eq_true (List.mem_filter.mp listed).2, same⟩
  · rintro ⟨p, feeds, rfl, same⟩
    exact ⟨(grouped_groupByCategory _).listed p (mem_sortPending.mpr feeds.waiting), p,
      mem_candidates feeds.waiting, feeds, same⟩

/-! ### Runs -/

theorem unfed_refreshes {registry : Registry} {name : String} {db : Database} {w : Write}
    (allowed : Refreshes registry name db w) (pattern : String) (score : Score) :
    w ≠ .feed category pattern score := by
  rintro rfl
  rcases allowed with moved | removed
  · cases moved
  · cases removed

/-- **No other call changes the enforcement data.** -/
theorem dynamic_perform {c : Call} (other : ∀ around, c ≠ .confirm around) (s : State)
    (category : String) :
    (s.perform c).database.dynamic category = s.database.dynamic category := by
  cases c with
  | detect around origin =>
    refine (detect_reaches s around origin).trail.dynamic_eq ?_
    rintro db _ ⟨_, _, _⟩ pattern score fed
    cases fed
  | confirm around => exact absurd rfl (other around)
  | refresh around name =>
    exact (refresh_reaches_all s around name).trail.dynamic_eq fun _ _ => unfed_refreshes
  | refreshAll around =>
    refine (refreshEach_reaches around _ s).trail.dynamic_eq ?_
    rintro db w ⟨name, -, allowed⟩
    exact unfed_refreshes allowed
  | deactivate name =>
    refine (deactivate_reaches s name).trail.dynamic_eq ?_
    rintro db _ ⟨side, rfl⟩ pattern score fed
    cases fed

/-- A step is a confirmation of the queue that feeds a pattern of a category. -/
def StepFeeds (s : State) (step : Step) (category pattern : String) : Prop :=
  ∃ around, step = .call (.confirm around) ∧
    ∃ p, s.Feeds around.services p ∧ p.1.category = category ∧ p.1.pattern = pattern

/-- What one step adds to the enforcement data. -/
theorem enforces_step (healthy : s.database.Healthy) (step : Step) (category pattern : String) :
    (s.step step).database.Enforces category pattern ↔
      s.database.Enforces category pattern ∨ s.StepFeeds step category pattern := by
  by_cases confirms : ∃ around, step = .call (.confirm around)
  · obtain ⟨around, rfl⟩ := confirms
    refine (enforces_confirmQueued healthy _ _ category pattern).trans (or_congr_right ⟨?_, ?_⟩)
    · exact fun fed => ⟨around, rfl, fed⟩
    · rintro ⟨other, same, fed⟩
      cases same
      exact fed
  · have kept : (s.step step).database.dynamic category = s.database.dynamic category := by
      cases step with
      | configure registry => rfl
      | call c => exact dynamic_perform (fun around same => confirms ⟨around, congrArg _ same⟩) s _
    unfold Enforces
    rw [kept]
    exact ⟨Or.inl, fun held => held.resolve_right fun ⟨around, same, _⟩ => confirms ⟨around, same⟩⟩

/-- What a run adds to the enforcement data. -/
theorem enforces_run_iff (category pattern : String) (steps : List Step) :
    ∀ s : State, s.database.Healthy →
      ((s.run steps).database.Enforces category pattern ↔
        s.database.Enforces category pattern ∨
          ∃ before step, before ++ [step] <+: steps ∧ (s.run before).StepFeeds step category pattern) := by
  induction steps with
  | nil =>
    refine fun s _ => ⟨Or.inl, fun held => held.resolve_right ?_⟩
    rintro ⟨before, step, within, -⟩
    simpa using List.prefix_nil.mp within
  | cons first rest ih =>
    intro s healthy
    show ((s.step first).run rest).database.Enforces category pattern ↔ _
    rw [ih _ ((step_trail s first).healthy healthy), enforces_step healthy, or_assoc]
    refine or_congr_right ⟨?_, ?_⟩
    · rintro (here | ⟨before, step, within, fed⟩)
      · exact ⟨[], first, List.cons_prefix_cons.mpr ⟨rfl, List.nil_prefix⟩, here⟩
      · exact ⟨first :: before, step, List.cons_prefix_cons.mpr ⟨rfl, within⟩, fed⟩
    · rintro ⟨before, step, within, fed⟩
      cases before with
      | nil =>
        obtain ⟨rfl, -⟩ := List.cons_prefix_cons.mp within
        exact Or.inl fed
      | cons other before =>
        obtain ⟨rfl, later⟩ := List.cons_prefix_cons.mp within
        exact Or.inr ⟨before, step, later, fed⟩

/-- The listing of the enforcement data. -/
theorem dynamicDomains_eq (present : s.database.sets.isSome = true) (category : String) :
    s.dynamicDomains category = .ok (s.database.dynamic category).members :=
  congrArg Prod.fst (Database.execute_members present)

/-- **Enforcement is fed by confirmations in the cloud and by nothing else.** After every run the
enforcement data of a category lists each of its patterns once: those it began with and those that a
confirmation of the run fed. The next step adds what it feeds, and what is listed after a part of the run is
listed at the end. -/
theorem enforcement_run (healthy : s.database.Healthy) (steps : List Step) (category : String) :
    (∃ names, (s.run steps).dynamicDomains category = .ok names ∧ names.Nodup ∧
      ∀ pattern, pattern ∈ names ↔ s.database.Enforces category pattern ∨
        ∃ before step, before ++ [step] <+: steps ∧
          (s.run before).StepFeeds step category pattern) ∧
    (∀ step pattern, (s.run (steps ++ [step])).database.Enforces category pattern ↔
      (s.run steps).database.Enforces category pattern ∨
        (s.run steps).StepFeeds step category pattern) ∧
    ∀ done pattern, done <+: steps → (s.run done).database.Enforces category pattern →
      (s.run steps).database.Enforces category pattern := by
  have sound : (s.run steps).database.Healthy := (run_kept steps s).2 healthy
  refine ⟨?_, fun step pattern => ?_, fun done pattern within held => ?_⟩
  · refine ⟨_, dynamicDomains_eq sound.present category, SortedSet.nodup_members, fun pattern => ?_⟩
    rw [← SortedSet.contains_iff]
    exact enforces_run_iff category pattern steps s healthy
  · have last : s.run (steps ++ [step]) = (s.run steps).step step := List.foldl_append
    rw [last]
    exact enforces_step sound step category pattern
  · rw [enforces_run_iff category pattern done s healthy] at held
    rw [enforces_run_iff category pattern steps s healthy]
    refine held.imp_right ?_
    rintro ⟨before, step, part, fed⟩
    exact ⟨before, step, part.trans within, fed⟩

/-! ### A pattern that is fed -/

/-- A match of a curated category waits. -/
def lookedUp : State :=
  let s := State.new { Config.standard with
    categories := [{ Definition.new "games" with style := .curated [] }] } .new
  s.withQueue { s.session.queue with pending := [(⟨"games", "x.com", "a.x.com"⟩, 0)] }

/-- Its origin has a record in the category. -/
def onRecord : Surroundings where
  services := {
    checkFilter := fun _ => .error .http
    membership := fun _ _ => .error .http
    intel := fun _ _ _ => .ok ⟨[⟨"a.x.com", "games"⟩]⟩
    listFile := fun _ => .error .notFound }
  clock _ := 1
  instant := 0
  stopped _ := false

theorem feeds_lookedUp : lookedUp.Feeds onRecord.services (⟨"games", "x.com", "a.x.com"⟩, 0) := by
  have alone : lookedUp.candidates "games" = lookedUp.session.queue.pending := by
    have sorted : lookedUp.session.queue.pending.Pairwise fun p q => notAfter p q = true := by
      decide +kernel
    unfold candidates
    rw [sortPending_of_sorted sorted]
    decide +kernel
  refine ⟨by decide +kernel, by decide +kernel, Or.inr (by decide +kernel),
    ⟨⟨["a.x.com"], []⟩, ?_, by decide +kernel, by decide +kernel⟩, by decide +kernel,
    by decide +kernel⟩
  rw [alone]
  decide +kernel

/-- The confirmation feeds the pattern of the match. -/
theorem enforcement_run_lookedUp :
    lookedUp.database.Healthy ∧
      ∃ names, (lookedUp.run [.call (.confirm onRecord)]).dynamicDomains "games" = .ok names ∧
        names.Nodup ∧ "x.com" ∈ names := by
  have healthy : lookedUp.database.Healthy := ⟨rfl, rfl⟩
  obtain ⟨⟨names, listed, once, exactly⟩, -, -⟩ :=
    enforcement_run healthy [.call (.confirm onRecord)] "games"
  refine ⟨healthy, names, listed, once, (exactly "x.com").mpr (Or.inr ?_)⟩
  exact ⟨[], _, List.prefix_refl _, onRecord, rfl, _, feeds_lookedUp, rfl, rfl⟩

end State

end CategoryFilter
