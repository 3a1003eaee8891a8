/-
**Categories are isolated from each other.**

What is done for one category leaves the sets of all others as they are (`sameSets_use`). For the operations
that go over all categories this is said of two runs: a category comes out the same of two states that it
cannot tell apart, whatever candidates and sets the other categories have there, and whatever the services
answer to the other questions.

* `Twins.confirmQueued`, `Twins.refreshAll`: the two runs of a confirmation of the queue and of a refresh of
  all categories.
* `isolation`: both, for every category.

What a confirmation does for each category is kept in its `outcomes`, of which its report is the sum
(`report_eq`).
-/

import CategoryFilter.Proofs.Examiner.Twins
import CategoryFilter.Proofs.Examiner.Use
import CategoryFilter.Proofs.Lookup

namespace CategoryFilter

/-- A report with some outcomes of categories added. -/
def ConfirmReport.add (report : ConfirmReport) (done : List (String × Outcome)) : ConfirmReport :=
  { report with
    categories := report.categories + done.length
    changed := report.changed ++ (done.filter fun o => o.2.changed).map Prod.fst
    requeued := report.requeued + (done.map fun o => o.2.requeued).foldr (· + ·) 0
    dropped := report.dropped + (done.map fun o => o.2.dropped).foldr (· + ·) 0 }

namespace State

open Database (SameSets)

variable {s t : State} {category : String} {named : String → Prop} {services others : Services}
  {clock later : Clock} {around other : Surroundings}

/-! ### The outcomes of a confirmation -/

/-- The outcome of each of some groups, with its category. -/
def groupOutcomes (services : Services) (clock : Clock) :
    State × ConfirmReport → List (String × List Pending) → List (String × Outcome)
  | _, [] => []
  | so_far, group :: rest =>
    (group.1, (so_far.1.confirmCategory services clock group.1 group.2).2) ::
      groupOutcomes services clock (confirmGroup services clock so_far group) rest

/-- The outcome of each category in a confirmation of the queue. -/
def outcomes (s : State) (services : Services) (clock : Clock) : List (String × Outcome) :=
  groupOutcomes services clock s.drained (groupByCategory s.session.queue.pending)

theorem report_confirmGroups (services : Services) (clock : Clock) (groups : List (String × List Pending)) :
    ∀ start : State × ConfirmReport, (groups.foldl (confirmGroup services clock) start).2 =
      start.2.add (groupOutcomes services clock start groups) := by
  induction groups with
  | nil =>
    intro start
    simp [groupOutcomes, ConfirmReport.add]
  | cons group rest ih =>
    intro start
    refine (ih _).trans ?_
    simp only [groupOutcomes, confirmGroup, ConfirmReport.add, List.length_cons, List.map_cons,
      List.foldr_cons, List.filter_cons]
    cases (start.1.confirmCategory services clock group.1 group.2).2.changed <;>
      simp [Nat.add_assoc, Nat.add_comm]

/-- **The report of a confirmation is the sum of the outcomes.** -/
theorem report_eq (s : State) (services : Services) (clock : Clock) :
    (s.confirmQueued services clock).2 =
      ConfirmReport.add ⟨s.session.queue.pending.length, 0, [], 0, 0⟩ (s.outcomes services clock) :=
  report_confirmGroups services clock _ s.drained

theorem groupOutcomes_append (services : Services) (clock : Clock)
    (first second : List (String × List Pending)) :
    ∀ start : State × ConfirmReport, groupOutcomes services clock start (first ++ second) =
      groupOutcomes services clock start first ++
        groupOutcomes services clock (first.foldl (confirmGroup services clock) start) second := by
  induction first with
  | nil => exact fun _ => rfl
  | cons group rest ih => exact fun start => congrArg (List.cons _) (ih _)

theorem map_groupOutcomes (services : Services) (clock : Clock) (groups : List (String × List Pending)) :
    ∀ start : State × ConfirmReport,
      (groupOutcomes services clock start groups).map Prod.fst = groups.map Prod.fst := by
  induction groups with
  | nil => exact fun _ => rfl
  | cons group rest ih => exact fun start => congrArg (List.cons _) (ih _)

theorem lookup_groupOutcomes {groups : List (String × List Pending)}
    (absent : category ∉ groups.map Prod.fst) (services : Services) (clock : Clock)
    (start : State × ConfirmReport) :
    (groupOutcomes services clock start groups).lookup category = none := by
  rwa [lookup_eq_none_iff, map_groupOutcomes]

/-! ### The turn of a category in a confirmation -/

theorem aside_drained (s : State) (category : String) : Aside category s s.drained.1 :=
  ⟨SameSets.refl _ _, rfl, rfl, rfl, rfl, rfl, rfl⟩

/-- A category without candidates has no turn. -/
theorem aside_confirmQueued (idle : s.candidates category = []) (services : Services) (clock : Clock) :
    Aside category s (s.confirmQueued services clock).1 ∧
      (s.outcomes services clock).lookup category = none := by
  have absent : category ∉ (groupByCategory s.session.queue.pending).map Prod.fst := by
    intro named
    obtain ⟨group, listed, rfl⟩ := List.mem_map.mp named
    have exact := (grouped_groupByCategory _).exact group listed
    exact exact.2 (exact.1.trans idle)
  refine ⟨(aside_drained s category).trans ?_, lookup_groupOutcomes absent services clock s.drained⟩
  exact aside_confirmGroups services clock _ s.drained absent

/-- A category with candidates has one turn, and all before and after it steps aside. -/
theorem exists_confirm_turn (some : s.candidates category ≠ []) (services : Services) (clock : Clock) :
    ∃ start : State × ConfirmReport, Aside category s start.1 ∧
      Aside category (start.1.confirmCategory services clock category (s.candidates category)).1
        (s.confirmQueued services clock).1 ∧
      (s.outcomes services clock).lookup category =
        Option.some (start.1.confirmCategory services clock category (s.candidates category)).2 := by
  obtain ⟨p, there⟩ := List.exists_mem_of_ne_nil _ some
  obtain ⟨sorted, own⟩ := List.mem_filter.mp there
  obtain rfl : p.1.category = category := of_decide_eq_true own
  obtain ⟨before, after, split, earlier, later⟩ := exists_group (mem_sortPending.mp sorted)
  let start := before.foldl (confirmGroup services clock) s.drained
  let next := confirmGroup services clock start (p.1.category, s.candidates p.1.category)
  refine ⟨start, ?_, ?_, ?_⟩
  · exact (aside_drained s _).trans (aside_confirmGroups services clock before s.drained earlier)
  · have last : (s.confirmQueued services clock).1 = (after.foldl (confirmGroup services clock) next).1 := by
      rw [confirmQueued_fst, split, List.foldl_append, List.foldl_cons]
      rfl
    rw [last]
    exact (aside_notifyIf _ _ _ _).trans (aside_confirmGroups services clock after next later)
  · have skipped := lookup_groupOutcomes earlier services clock s.drained
    unfold outcomes
    rw [split, groupOutcomes_append, List.lookup_append, skipped]
    exact List.lookup_cons_self

/-! ### Two runs of a confirmation -/

namespace Twins

theorem misses (twins : Twins category named s t) {items : List Pending}
    (agree : services.AgreeOn category (s.consult services category items).1 others) :
    t.misses others category items = s.misses services category items := by
  funext p
  unfold State.misses State.source
  rw [twins.registry, twins.consult agree]

/-- **A confirmation of the queue treats a category in two states alike** that it cannot tell apart. -/
theorem confirmQueued (twins : Twins category named s t)
    (waiting : t.candidates category = s.candidates category)
    (met : ∀ p ∈ s.candidates category, named p.1.pattern ∧ named p.1.origin)
    (agree : services.AgreeOn category (s.consult services category (s.candidates category)).1 others)
    (readings : SameReadings category clock later) :
    Twins category named (s.confirmQueued services clock).1 (t.confirmQueued others later).1 ∧
      (t.outcomes others later).lookup category = (s.outcomes services clock).lookup category := by
  by_cases idle : s.candidates category = []
  · obtain ⟨one, first⟩ := aside_confirmQueued idle services clock
    obtain ⟨two, second⟩ := aside_confirmQueued (waiting.trans idle) others later
    exact ⟨twins.aside one two, second.trans first.symm⟩
  · obtain ⟨here, before, after, first⟩ := exists_confirm_turn idle services clock
    obtain ⟨there, earlier, afterwards, second⟩ := exists_confirm_turn (waiting ▸ idle) others later
    -- The turns may come at different places of the two runs; before each the states are still twins.
    rw [waiting] at afterwards second
    rw [← consult_eq before.registry] at agree
    have paired := (twins.aside before earlier).confirmCategory agree readings met
    refine ⟨paired.states.aside after afterwards, ?_⟩
    rw [first, second, paired.result]

end Twins

/-- What a confirmation of the queue puts back of a category. -/
theorem pending_confirmQueued_category (s : State) (services : Services) (clock : Clock)
    (category : String) :
    (s.confirmQueued services clock).1.session.queue.restrict category =
      Queue.putBack ⟨s.session.queue.maxAttempts, []⟩
        ((s.candidates category).filter (s.misses services category (s.candidates category))) := by
  have entered : (s.confirmQueued services clock).1.session.queue =
      s.session.queue.drain.1.putBack ((sortPending s.session.queue.pending).filter (s.fails services)) :=
    (enters_confirmQueued s services clock).queue
  rw [entered, Queue.restrict_putBack]
  refine congrArg (Queue.putBack ⟨s.session.queue.maxAttempts, []⟩) ?_
  unfold candidates ofCategory
  rw [List.filter_comm]
  refine List.filter_congr fun p listed => ?_
  have own : p.1.category = category := of_decide_eq_true (List.mem_filter.mp listed).2
  unfold fails
  rw [own]
  rfl

/-- The candidates of a category that wait afterwards, with their attempts, are the same in both runs. -/
theorem Twins.pending_confirmQueued (twins : Twins category named s t)
    (waiting : t.candidates category = s.candidates category)
    (agree : services.AgreeOn category (s.consult services category (s.candidates category)).1 others)
    (clock later : Clock) :
    ofCategory (t.confirmQueued others later).1.session.queue.pending category =
      ofCategory (s.confirmQueued services clock).1.session.queue.pending category := by
  have one := pending_confirmQueued_category s services clock category
  have two := pending_confirmQueued_category t others later category
  rw [waiting, twins.misses agree, twins.attempts, ← one] at two
  exact congrArg Queue.pending two

/-! ### Two runs of a refresh of all categories -/

/-- The reports about a category. -/
def reportsOf (category : String) (reports : List RefreshReport) : List RefreshReport :=
  reports.filter fun report => report.category = category

/-- The report of a refresh, if there is one. -/
def reported (outcome : Except Failure (Option RefreshReport)) : List RefreshReport :=
  match outcome with
  | .ok (some report) => [report]
  | _ => []

theorem refreshEach_turn (quiet : ∀ point, around.stopped point = false) (s : State) (first : String)
    (rest : List String) :
    (s.refreshEach around (first :: rest)).2 =
      reported (s.refresh around first).2 ++ ((s.refresh around first).1.refreshEach around rest).2 := by
  conv_lhs => unfold refreshEach
  rw [if_neg (Bool.eq_false_iff.mp (quiet _))]
  rcases s.refresh around first with ⟨u, _ | _ | report⟩ <;> rfl

theorem refreshEach_next (quiet : ∀ point, around.stopped point = false) (s : State) (first : String)
    (rest : List String) :
    (s.refreshEach around (first :: rest)).1 = ((s.refresh around first).1.refreshEach around rest).1 := by
  rw [refreshEach_cons, if_neg (Bool.eq_false_iff.mp (quiet _))]

/-- The refresh of a category makes no report about another. -/
theorem reportsOf_other {first : String} (different : first ≠ category) (s : State) :
    reportsOf category (reported (s.refresh around first).2) = [] := by
  cases outcome : (s.refresh around first).2 with
  | error cause => rfl
  | ok report? =>
    cases report? with
    | none => rfl
    | some report =>
      have own : report.category = first := category_of_report outcome
      refine List.filter_cons_of_neg ?_
      rw [own]
      simpa using different

theorem reportsOf_absent (quiet : ∀ point, around.stopped point = false) (categories : List String) :
    ∀ s : State, category ∉ categories →
      reportsOf category (s.refreshEach around categories).2 = [] := by
  induction categories with
  | nil => exact fun _ _ => rfl
  | cons first rest ih =>
    intro s absent
    obtain ⟨different, later⟩ := not_or.mp (List.mem_cons.not.mp absent)
    rw [refreshEach_turn quiet]
    unfold reportsOf
    rw [List.filter_append]
    exact List.append_eq_nil_iff.mpr ⟨reportsOf_other (Ne.symm different) s, ih _ later⟩

namespace Twins

theorem refreshQuestions {u : State} (aside : Aside category s u) (services : Services) :
    u.refreshQuestions services category = s.refreshQuestions services category := by
  unfold State.refreshQuestions State.kept State.source
  rw [aside.sets.pair, aside.registry]

/-- Refreshes of some categories in twin states. -/
theorem refreshEach (quiet : ∀ point, around.stopped point = false)
    (still : ∀ point, other.stopped point = false) (readings : SameReadings category around.clock other.clock)
    (categories : List String) :
    ∀ s t : State, Twins category named s t → categories.Nodup →
      around.services.AgreeOn category (s.refreshQuestions around.services category) other.services →
      Twins category named (s.refreshEach around categories).1 (t.refreshEach other categories).1 ∧
        reportsOf category (t.refreshEach other categories).2 =
          reportsOf category (s.refreshEach around categories).2 := by
  induction categories with
  | nil => exact fun s t twins _ _ => ⟨twins, rfl⟩
  | cons first rest ih =>
    intro s t twins distinct agree
    obtain ⟨once, distinct⟩ := List.nodup_cons.mp distinct
    rw [refreshEach_next quiet, refreshEach_next still, refreshEach_turn quiet, refreshEach_turn still]
    unfold reportsOf
    rw [List.filter_append, List.filter_append]
    by_cases own : first = category
    · -- The turn has changed what the category would ask next, so the rest is not left to `ih`: it
      -- steps aside, as the category comes only once.
      subst own
      have paired := twins.refresh quiet still agree readings
      refine ⟨paired.states.aside (aside_refreshEach around rest _ once)
        (aside_refreshEach other rest _ once), ?_⟩
      rw [paired.result]
      refine congrArg₂ (· ++ ·) rfl ?_
      exact (reportsOf_absent still rest _ once).trans (reportsOf_absent quiet rest _ once).symm
    · have one := aside_refresh (s := s) own around
      have two := aside_refresh (s := t) own other
      obtain ⟨later, same⟩ := ih _ _ (twins.aside one two) distinct
        ((refreshQuestions one around.services).symm ▸ agree)
      refine ⟨later, congrArg₂ (· ++ ·) ?_ same⟩
      exact (reportsOf_other own t).trans (reportsOf_other own s).symm

/-- **A refresh of all categories without shutdown treats a category in two states alike** that it cannot
tell apart. -/
theorem refreshAll (twins : Twins category named s t) (quiet : ∀ point, around.stopped point = false)
    (still : ∀ point, other.stopped point = false)
    (agree : around.services.AgreeOn category (s.refreshQuestions around.services category) other.services)
    (readings : SameReadings category around.clock other.clock) :
    Twins category named (s.refreshAll around).1 (t.refreshAll other).1 ∧
      reportsOf category (t.refreshAll other).2 = reportsOf category (s.refreshAll around).2 := by
  unfold State.refreshAll
  rw [twins.registry]
  exact refreshEach quiet still readings _ s t twins (Text.nodup_sortNames _) agree

end Twins

/-! ### Isolation -/

/-- **Categories are isolated from each other.** What is done for another category leaves the three sets of a
category as they are. Of two states that a category cannot tell apart, with its own candidates the same, a
confirmation of the queue leaves the same sets and puts back and drops the same for the category, if its own
questions get the same answers and its own clock readings are the same; what it reports is the sum of such
outcomes. So does a refresh of all categories without shutdown, which makes the same report. -/
theorem isolation (category : String) :
    (∀ (other : String), other ≠ category → ∀ (s : State) (u : Use),
      SameSets category s.database (s.use other u).database) ∧
    (∀ (s : State) (services : Services) (clock : Clock), (s.confirmQueued services clock).2 =
      ConfirmReport.add ⟨s.session.queue.pending.length, 0, [], 0, 0⟩ (s.outcomes services clock)) ∧
    (∀ (named : String → Prop) (s t : State), Twins category named s t →
      t.candidates category = s.candidates category →
      (∀ p ∈ s.candidates category, named p.1.pattern ∧ named p.1.origin) →
      ∀ (services others : Services) (clock later : Clock),
        services.AgreeOn category (s.consult services category (s.candidates category)).1 others →
        SameReadings category clock later →
        SameSets category (s.confirmQueued services clock).1.database
          (t.confirmQueued others later).1.database ∧
        ofCategory (t.confirmQueued others later).1.session.queue.pending category =
          ofCategory (s.confirmQueued services clock).1.session.queue.pending category ∧
        (t.outcomes others later).lookup category = (s.outcomes services clock).lookup category) ∧
    (∀ (named : String → Prop) (s t : State), Twins category named s t →
      ∀ (around other : Surroundings), (∀ point, around.stopped point = false) →
        (∀ point, other.stopped point = false) →
        around.services.AgreeOn category (s.refreshQuestions around.services category) other.services →
        SameReadings category around.clock other.clock →
        SameSets category (s.refreshAll around).1.database (t.refreshAll other).1.database ∧
        reportsOf category (t.refreshAll other).2 = reportsOf category (s.refreshAll around).2) := by
  refine ⟨fun other different s u => sameSets_use different s u, report_eq, ?_, ?_⟩
  · intro named s t twins waiting met services others clock later agree readings
    obtain ⟨after, outcome⟩ := twins.confirmQueued waiting met agree readings
    exact ⟨after.database.sets, twins.pending_confirmQueued waiting agree clock later, outcome⟩
  · intro named s t twins around other quiet still agree readings
    obtain ⟨after, reports⟩ := twins.refreshAll quiet still agree readings
    exact ⟨after.database.sets, reports⟩

/-! ### A category with and without a neighbour -/

/-- A category with a list file that has a hit and a waiting candidate, beside another without either. -/
def alone : State :=
  let s := State.new { Config.standard with
    categories := [{ Definition.new "games" with strategy := .file }, Definition.new "news"] }
    (Database.new.write (.record "games" ⟨"y.com", .hit⟩ 1))
  s.withQueue { s.session.queue with pending := [(⟨"games", "x.com", "a.x.com"⟩, 0)] }

/-- The other category has a hit and a candidate as well, and its name cannot be written. -/
def crowded : State :=
  let beside := alone.database.write (.record "news" ⟨"n.com", .hit⟩ 1)
  State.withQueue { alone with database := { beside with guarded := ["n.com"] } }
    { alone.session.queue with
      pending := [(⟨"games", "x.com", "a.x.com"⟩, 0), (⟨"news", "n.com", "n.com"⟩, 1)] }

/-- The names that the first category meets. -/
def InGames (name : String) : Prop :=
  name ∈ ["a.x.com", "x.com", "y.com"]

/-- The local filter lists everything, and every list file lists the candidate. -/
def answering : Surroundings where
  services := {
    checkFilter := fun request => .ok ⟨request.filters.map (⟨·, "", .hit⟩)⟩
    membership := fun _ _ => .ok ⟨some []⟩
    intel := fun _ _ _ => .error .http
    listFile := fun _ => .ok "a.x.com\n".toUTF8 }
  clock _ := 1
  instant := 0
  stopped _ := false

/-- The source of the other category fails, and its clock is read later. -/
def failing : Surroundings where
  services := { answering.services with membership := fun _ _ => .error .http }
  clock reading := if reading = .confirmation "news" then 2 else 1
  instant := 5
  stopped _ := false

theorem twins_crowded : Twins "games" InGames alone crowded := by
  have other : (Write.record "news" ⟨"n.com", .hit⟩ 1).category ≠ "games" := by decide
  have sets : SameSets "games" alone.database (alone.database.write (.record "news" ⟨"n.com", .hit⟩ 1)) :=
    ⟨Database.pair_write_other other, Database.dynamic_write_of_ne fun _ _ => nofun⟩
  refine ⟨⟨rfl, ⟨sets.pair, sets.dynamic⟩, fun name met => ?_, fun side name held => ?_⟩, rfl, rfl,
    rfl, rfl⟩
  · have free : name ≠ "n.com" := by
      rintro rfl
      revert met
      unfold InGames
      decide
    show ["n.com"].contains name = false
    simpa using free
  · have recorded : ((Database.new.pair "games").record ⟨"y.com", .hit⟩ 1 side).contains name = true := by
      rw [← Database.pair_record]
      exact held
    rw [SetPair.contains_record] at recorded
    split at recorded
    · next same =>
      rw [same]
      unfold InGames
      decide
    · cases side <;> cases recorded

theorem sorted_alone : alone.session.queue.pending.Pairwise fun p q => notAfter p q = true := by
  decide +kernel

theorem candidates_alone : alone.candidates "games" = [(⟨"games", "x.com", "a.x.com"⟩, 0)] := by
  unfold candidates
  rw [sortPending_of_sorted sorted_alone]
  decide +kernel

/-- The candidate becomes a hit. -/
theorem outcome_alone :
    (alone.outcomes answering.services answering.clock).lookup "games" = some ⟨true, 0, 0⟩ := by
  unfold outcomes
  rw [groupByCategory_of_sorted sorted_alone]
  decide +kernel

theorem candidates_crowded : crowded.candidates "games" = [(⟨"games", "x.com", "a.x.com"⟩, 0)] := by
  have sorted : crowded.session.queue.pending.Pairwise fun p q => notAfter p q = true := by
    decide +kernel
  unfold candidates
  rw [sortPending_of_sorted sorted]
  decide +kernel

/-- A list file is asked without a question. -/
theorem asked_file (services : Services) (category : String) (style : Style) (keys : List String) :
    (Confirm.confirm services category .file style keys).1 = [] := by
  unfold Confirm.confirm
  split <;> rfl

theorem source_alone : alone.source "games" = .file := by
  decide +kernel

/-- The services agree on all but the hash sets, and the first category has a list file. -/
theorem agree_failing {asked : List Question} (unasked : ∀ request, .membership request ∉ asked) :
    answering.services.AgreeOn "games" asked failing.services :=
  ⟨fun _ _ => rfl, fun request listed => absurd listed (unasked request), fun _ _ _ => rfl, fun _ _ => rfl⟩

theorem readings_failing : SameReadings "games" answering.clock failing.clock :=
  ⟨by decide, fun _ => rfl, rfl⟩

/-- The neighbour has a hit and a candidate, its source fails and its name is refused, and for the first
category nothing differs. -/
theorem isolation_crowded :
    Twins "games" InGames alone crowded ∧
    (∀ u, SameSets "games" crowded.database (crowded.use "news" u).database) ∧
    (SameSets "games" (alone.confirmQueued answering.services answering.clock).1.database
        (crowded.confirmQueued failing.services failing.clock).1.database ∧
      ofCategory (crowded.confirmQueued failing.services failing.clock).1.session.queue.pending "games" =
        ofCategory (alone.confirmQueued answering.services answering.clock).1.session.queue.pending
          "games" ∧
      (crowded.outcomes failing.services failing.clock).lookup "games" = some ⟨true, 0, 0⟩) ∧
    SameSets "games" (alone.refreshAll answering).1.database (crowded.refreshAll failing).1.database ∧
      reportsOf "games" (crowded.refreshAll failing).2 = reportsOf "games" (alone.refreshAll answering).2 := by
  obtain ⟨apart, -, confirmed, refreshed⟩ := isolation "games"
  refine ⟨twins_crowded, apart "news" (by decide) crowded, ?_, ?_⟩
  · rw [← outcome_alone]
    refine confirmed InGames alone crowded twins_crowded
      (candidates_crowded.trans candidates_alone.symm) ?_ _ _ _ _ (agree_failing ?_) readings_failing
    · rw [candidates_alone]
      unfold InGames
      decide
    · unfold consult
      rw [source_alone, asked_file]
      exact fun _ => List.not_mem_nil
  · refine refreshed InGames alone crowded twins_crowded answering failing (fun _ => rfl) (fun _ => rfl)
      (agree_failing fun request listed => ?_) readings_failing
    unfold refreshQuestions at listed
    rw [source_alone, asked_file, List.append_nil] at listed
    obtain ⟨m, -, same⟩ := List.mem_map.mp listed
    cases same

end State

end CategoryFilter
