/-
**A detection queues exactly the open matches.**

A result of the local filter about a domain `Proposes` a candidate if it is a match in an active category.
The match is excluded, or its sets know it (`knownAs?`), or it is open (`IsOpen`). While the sets of each
category have no common name, a new score for a known name changes no member, so that the examination of
one result does not change what the next one finds:

* `examineMatch_recalls`, `examineMatch_opens`: what the examination of a match does in each case.
* `Examined.step`: one result more, from the state before the first one.
* `detect_queues_open`: the queue, the number of new candidates, the members and the scores after a
  detection, for every queue, every registry and every answer of the local filter.
-/

import CategoryFilter.Proofs.Examiner.Ledger

namespace CategoryFilter

theorem Category.ofFilterUid?_eq_some_iff {uid category : String} :
    ofFilterUid? uid = some category ↔ uid = filterUid category ∧ category ≠ "" := by
  have letters : (filterUid category).toList = "category:".toList ++ category.toList :=
    String.toList_append
  unfold ofFilterUid?
  constructor
  · intro named
    split at named
    · next c rest found =>
      have whole := List.isPrefixOf?_eq_some_iff_append_eq.mp found
      have name : category.toList = c :: rest := by
        rw [← Option.some.inj named, String.toList_ofList]
      refine ⟨String.toList_injective ?_, ?_⟩
      · rw [letters, name, whole]
      · rintro rfl
        cases name
    · cases named
  · rintro ⟨rfl, named⟩
    have found : "category:".toList.isPrefixOf? (filterUid category).toList = some category.toList :=
      List.isPrefixOf?_eq_some_iff_append_eq.mpr letters.symm
    rw [found]
    rcases name : category.toList with _ | ⟨c, rest⟩
    · exact absurd (String.toList_injective name) named
    · dsimp only
      rw [← name, String.ofList_toList]

namespace State

open Category (setKeys)
open Database (execute)

variable {s t : State} {clock : Clock} {origin : String} {r : FilterResult} {c : Candidate} {m : Member}
  {score : Score} {placed : List (FilterResult × Nat)} {count : Nat}

/-! ### Matches -/

/-- A result of the local filter about a domain is a match of a candidate. -/
structure Proposes (s : State) (origin : String) (r : FilterResult) (c : Candidate) : Prop where
  status : r.status = .hit
  uid : r.uid = Category.filterUid c.category
  named : c.category ≠ ""
  active : s.registry.isActive c.category = true
  pattern : c.pattern = if r.item = "" then origin else r.item
  origin : c.origin = origin

/-- The candidate that a result is a match of. -/
def proposal? (s : State) (origin : String) (r : FilterResult) : Option Candidate :=
  (s.matchedCategory? r).map fun category => ⟨category, r.pattern origin, origin⟩

theorem matchedCategory?_eq_some_iff {category : String} :
    s.matchedCategory? r = some category ↔
      r.status = .hit ∧ r.uid = Category.filterUid category ∧ category ≠ "" ∧
        s.registry.isActive category = true := by
  unfold matchedCategory?
  by_cases status : r.status = .hit
  · rw [if_pos status, Option.filter_eq_some_iff, Category.ofFilterUid?_eq_some_iff, and_assoc]
    exact (and_iff_right status).symm
  · rw [if_neg status]
    exact ⟨nofun, fun matched => absurd matched.1 status⟩

theorem FilterResult.pattern_eq (r : FilterResult) (origin : String) :
    r.pattern origin = if r.item = "" then origin else r.item := by
  unfold FilterResult.pattern
  exact if_congr String.isEmpty_iff rfl rfl

theorem proposal?_eq_some_iff : s.proposal? origin r = some c ↔ s.Proposes origin r c := by
  unfold proposal?
  rw [Option.map_eq_some_iff]
  constructor
  · rintro ⟨category, matched, rfl⟩
    obtain ⟨status, uid, named, active⟩ := matchedCategory?_eq_some_iff.mp matched
    exact ⟨status, uid, named, active, FilterResult.pattern_eq r origin, rfl⟩
  · intro proposes
    refine ⟨c.category, matchedCategory?_eq_some_iff.mpr
      ⟨proposes.status, proposes.uid, proposes.named, proposes.active⟩, ?_⟩
    rw [FilterResult.pattern_eq, ← proposes.pattern, ← proposes.origin]

/-- The set that knows a match which is not excluded: the hits if they hold its pattern, else the
passthroughs if they hold its origin. -/
def knownAs? (s : State) (c : Candidate) : Option Member :=
  if (s.registry.exclusions c.category).coversAny [c.origin, c.pattern] then none
  else if (s.database.pair c.category .hit).contains c.pattern then some ⟨c.pattern, .hit⟩
  else if (s.database.pair c.category .passthrough).contains c.origin then
    some ⟨c.origin, .passthrough⟩
  else none

/-- A match that is neither excluded nor known. -/
structure IsOpen (s : State) (c : Candidate) : Prop where
  origin : (s.registry.exclusions c.category).covers c.origin = false
  pattern : (s.registry.exclusions c.category).covers c.pattern = false
  noHit : (s.database.pair c.category .hit).contains c.pattern = false
  noPassthrough : (s.database.pair c.category .passthrough).contains c.origin = false

theorem coversAny_pair {x : Exclusions} {first second : String} :
    x.coversAny [first, second] = false ↔ x.covers first = false ∧ x.covers second = false := by
  simp [Exclusions.coversAny]

theorem held_of_knownAs? (known : s.knownAs? c = some m) :
    (s.registry.exclusions c.category).coversAny [c.origin, c.pattern] = false ∧
      (s.database.pair c.category m.side).contains m.domain = true := by
  unfold knownAs? at known
  split at known
  · cases known
  · next allowed =>
    refine ⟨Bool.eq_false_iff.mpr allowed, ?_⟩
    split at known
    · next held =>
      cases known
      exact held
    · split at known
      · next held =>
        cases known
        exact held
      · cases known

/-- A match is open, known, or excluded. -/
theorem isOpen_iff : s.IsOpen c ↔
    (s.registry.exclusions c.category).coversAny [c.origin, c.pattern] = false ∧
      s.knownAs? c = none := by
  rw [coversAny_pair]
  constructor
  · intro isOpen
    refine ⟨⟨isOpen.origin, isOpen.pattern⟩, ?_⟩
    unfold knownAs?
    rw [isOpen.noHit, isOpen.noPassthrough]
    exact ite_self _
  · rintro ⟨free, unknown⟩
    have allowed : ¬ (s.registry.exclusions c.category).coversAny [c.origin, c.pattern] = true :=
      Bool.eq_false_iff.mp (coversAny_pair.mpr free)
    unfold knownAs? at unknown
    rw [if_neg allowed] at unknown
    split at unknown
    · cases unknown
    · next noHit =>
      split at unknown
      · cases unknown
      · next noPassthrough =>
        exact ⟨free.1, free.2, Bool.eq_false_iff.mpr noHit, Bool.eq_false_iff.mpr noPassthrough⟩

/-! ### The examination of one match -/

theorem examineMatch_excluded
    (excluded : (s.registry.exclusions c.category).coversAny [c.origin, c.pattern] = true) :
    s.examineMatch score c.category c.pattern c.origin = (s, false) := by
  unfold examineMatch
  rw [if_pos excluded]

/-- A known match gets a new score where it is known. -/
theorem execute_recallMatch_known {db : Database} (healthy : db.Healthy)
    (known : (if (db.pair c.category .hit).contains c.pattern then some ⟨c.pattern, .hit⟩
      else if (db.pair c.category .passthrough).contains c.origin then some ⟨c.origin, .passthrough⟩
      else none) = some m) (score : Score) :
    execute (recallMatch (setKeys c.category) score c.pattern c.origin) db =
      (.ok false, db.write (.record c.category m score)) := by
  have added : ∀ m : Member, execute (Database.addTo c.category m score) db =
      (.ok (db.gains c.category m), db.write (.record c.category m score)) := fun m =>
    Database.execute_addTo (healthy.accepts m.domain) c.category score
  unfold recallMatch
  rw [Database.execute_bind_ok (execute_isHit healthy.present c.category c.pattern)]
  split at known
  · next held =>
    cases known
    rw [if_pos held]
    exact Database.execute_bind_ok (added ⟨c.pattern, .hit⟩)
  · next noHit =>
    rw [if_neg noHit,
      Database.execute_bind_ok (execute_isPassthrough healthy.present c.category c.origin)]
    split at known
    · next held =>
      cases known
      rw [if_pos held]
      exact Database.execute_bind_ok (added ⟨c.origin, .passthrough⟩)
    · cases known

theorem examineMatch_recalls (healthy : s.database.Healthy) (known : s.knownAs? c = some m)
    (score : Score) :
    s.examineMatch score c.category c.pattern c.origin =
      ({ s with database := s.database.write (.record c.category m score) }, false) := by
  have allowed := Bool.eq_false_iff.mp (held_of_knownAs? known).1
  unfold knownAs? at known
  rw [if_neg allowed] at known
  have recalled := execute_recallMatch_known healthy known score
  unfold examineMatch apply
  rw [if_neg allowed]
  have acted : s.act (recallMatch (setKeys c.category) score c.pattern c.origin) =
      ({ s with database := s.database.write (.record c.category m score) }, .ok false) := by
    refine Prod.ext ?_ ?_
    · rw [act_fst, recalled]
    · rw [act_snd, recalled]
  rw [acted]

/-- An open match is put in the queue, unless it waits there already. -/
theorem examineMatch_opens (healthy : s.database.Healthy) (isOpen : s.IsOpen c) (score : Score) :
    s.examineMatch score c.category c.pattern c.origin =
      (s.withQueue (s.session.queue.enqueue c).1, (s.session.queue.enqueue c).2) := by
  have unknown : execute (recallMatch (setKeys c.category) score c.pattern c.origin) s.database =
      (.ok true, s.database) := by
    unfold recallMatch
    rw [Database.execute_bind_ok (execute_isHit healthy.present c.category c.pattern),
      if_neg (Bool.eq_false_iff.mp isOpen.noHit),
      Database.execute_bind_ok (execute_isPassthrough healthy.present c.category c.origin),
      if_neg (Bool.eq_false_iff.mp isOpen.noPassthrough)]
    rfl
  have acted : s.act (recallMatch (setKeys c.category) score c.pattern c.origin) = (s, .ok true) := by
    refine Prod.ext ?_ ?_
    · rw [act_fst, unknown]
    · rw [act_snd, unknown]
  have allowed : ¬ (s.registry.exclusions c.category).coversAny [c.origin, c.pattern] = true :=
    Bool.eq_false_iff.mp (isOpen_iff.mp isOpen).1
  unfold examineMatch apply
  rw [if_neg allowed, acted]

/-! ### The examination of several results -/

/-- Whether a result gives a member of a category a new score. -/
def rescores (s : State) (origin : String) (r : FilterResult) (category : String) (m : Member) : Bool :=
  (s.proposal? origin r).any fun c => c.category = category && s.knownAs? c = some m

/-- The reading of the clock at the last result that gives a member of a category a new score. -/
def lastReading? (s : State) (clock : Clock) (origin : String) (placed : List (FilterResult × Nat))
    (category : String) (m : Member) : Option Score :=
  (placed.filter fun r => s.rescores origin r.1 category m).getLast?.map fun r => clock (.result r.2)

/-- What the examination of some results about a domain, each with its place, makes of a state. -/
structure Examined (s : State) (clock : Clock) (origin : String) (placed : List (FilterResult × Nat))
    (t : State) (count : Nat) : Prop where
  /-- The open matches that did not wait before are put in the queue, each once and with no failed
  attempt, and are counted. -/
  queue : ∃ added : List Candidate, added.Nodup ∧ added.length = count ∧
    t.session.queue =
      { s.session.queue with pending := s.session.queue.pending ++ added.map fun c => (c, 0) } ∧
    ∀ c, c ∈ added ↔ s.IsOpen c ∧ ¬ s.Waits c ∧ ∃ r ∈ placed, s.Proposes origin r.1 c
  members : ∀ category, (s.database.pair category).SameMembers (t.database.pair category)
  /-- A known match has the score of the last result about it. -/
  scores : ∀ category m, (t.database.pair category m.side).score? m.domain =
    (s.lastReading? clock origin placed category m).or
      ((s.database.pair category m.side).score? m.domain)
  /-- Sets under other keys are as they were, -/
  others : ∀ key, (∀ category side, key ≠ Category.sideKey category side) →
    t.database.setAt key = s.database.setAt key
  healthy : t.database.Healthy
  /-- and so is everything but the database and the queue. -/
  rest : ∃ database queue,
    t = { s with database := database, session := { s.session with queue := queue } }

theorem lastReading?_append (r : FilterResult × Nat) (category : String) (m : Member) :
    s.lastReading? clock origin (placed ++ [r]) category m =
      if s.rescores origin r.1 category m then some (clock (.result r.2))
      else s.lastReading? clock origin placed category m := by
  unfold lastReading?
  rw [List.filter_append, List.filter_singleton]
  cases s.rescores origin r.1 category m with
  | true =>
    rw [cond_true, List.getLast?_concat]
    rfl
  | false =>
    rw [cond_false, List.append_nil]
    rfl

theorem rescores_iff {category : String} : s.rescores origin r category m = true ↔
    ∃ c, s.Proposes origin r c ∧ c.category = category ∧ s.knownAs? c = some m := by
  unfold rescores
  simp only [Option.any_eq_true, Bool.and_eq_true, decide_eq_true_iff, ← proposal?_eq_some_iff]

theorem rescores_of_proposes {category : String} (proposed : s.proposal? origin r = some c) :
    s.rescores origin r category m = true ↔ c.category = category ∧ s.knownAs? c = some m := by
  simp only [rescores_iff, ← proposal?_eq_some_iff, proposed, Option.some.injEq, exists_eq_left']

theorem Waits.iff_contains : s.Waits c ↔ s.session.queue.contains c = true := by
  rw [Queue.contains_iff, List.mem_map]
  constructor
  · rintro ⟨attempts, there⟩
    exact ⟨_, there, rfl⟩
  · rintro ⟨p, there, rfl⟩
    exact ⟨p.2, there⟩

theorem examined_start (healthy : s.database.Healthy) : Examined s clock origin [] s 0 where
  queue := by
    refine ⟨[], List.nodup_nil, rfl, ?_, fun c => ⟨nofun, ?_⟩⟩
    · rw [List.map_nil, List.append_nil]
    · rintro ⟨-, -, r, listed, -⟩
      cases listed
  members _ := .refl _
  scores _ _ := rfl
  others _ _ := rfl
  healthy := healthy
  rest := ⟨_, _, rfl⟩

namespace Examined

theorem registry (examined : Examined s clock origin placed t count) : t.registry = s.registry := by
  obtain ⟨database, queue, rfl⟩ := examined.rest
  rfl

/-- What is known does not change. -/
theorem knownAs?_eq (examined : Examined s clock origin placed t count) (c : Candidate) :
    t.knownAs? c = s.knownAs? c := by
  unfold knownAs?
  rw [examined.registry, examined.members c.category .hit, examined.members c.category .passthrough]

theorem isOpen_iff (examined : Examined s clock origin placed t count) : t.IsOpen c ↔ s.IsOpen c := by
  rw [State.isOpen_iff, State.isOpen_iff, examined.registry, examined.knownAs?_eq]

theorem exclusive (examined : Examined s clock origin placed t count)
    (held : ∀ category, (s.database.pair category).Exclusive) (category : String) :
    (t.database.pair category).Exclusive := by
  rintro name ⟨hit, passthrough⟩
  rw [examined.members] at hit passthrough
  exact held category name ⟨hit, passthrough⟩

/-- A result that is no match, or of an excluded one, changes nothing. -/
theorem passed (examined : Examined s clock origin placed t count) (r : FilterResult × Nat)
    (closed : ∀ c, s.proposal? origin r.1 = some c →
      (s.registry.exclusions c.category).coversAny [c.origin, c.pattern] = true) :
    Examined s clock origin (placed ++ [r]) t count := by
  obtain ⟨added, once, counted, queued, exact⟩ := examined.queue
  refine ⟨⟨added, once, counted, queued, fun c => ?_⟩, examined.members, fun category m => ?_,
    examined.others, examined.healthy, examined.rest⟩
  · rw [exact]
    refine and_congr_right fun isOpen => and_congr_right fun _ => ?_
    have unproposed : ¬ s.Proposes origin r.1 c := fun proposes => by
      have excluded := closed c (proposal?_eq_some_iff.mpr proposes)
      rw [(State.isOpen_iff.mp isOpen).1] at excluded
      cases excluded
    simp [or_and_right, exists_or, unproposed]
  · rw [lastReading?_append, if_neg, examined.scores]
    unfold rescores
    rcases proposed : s.proposal? origin r.1 with _ | c
    · exact Bool.false_ne_true
    · have unknown : s.knownAs? c = none := if_pos (closed c proposed)
      simp [unknown]

/-- A known match gets a new score. -/
theorem recalled (examined : Examined s clock origin placed t count)
    (held : ∀ category, (s.database.pair category).Exclusive) (r : FilterResult × Nat)
    (proposed : s.proposal? origin r.1 = some c) (known : s.knownAs? c = some m) :
    Examined s clock origin (placed ++ [r])
      { t with database := t.database.write (.record c.category m (clock (.result r.2))) } count := by
  obtain ⟨added, once, counted, queued, exact⟩ := examined.queue
  have apart := examined.exclusive held c.category
  have here : (t.database.pair c.category m.side).contains m.domain = true := by
    rw [examined.members]
    exact (held_of_knownAs? known).2
  let w : Write := .record c.category m (clock (.result r.2))
  refine ⟨⟨added, once, counted, queued, fun other => ?_⟩, fun category => ?_,
    fun category other => ?_, fun key foreign => ?_,
    examined.healthy.write w, ?_⟩
  · rw [exact]
    refine and_congr_right fun isOpen => and_congr_right fun _ => ?_
    have unproposed : ¬ s.Proposes origin r.1 other := fun proposes => by
      rw [proposal?_eq_some_iff.mpr proposes] at proposed
      cases proposed
      rw [(State.isOpen_iff.mp isOpen).2] at known
      cases known
    simp [or_and_right, exists_or, unproposed]
  · refine (examined.members category).trans ?_
    by_cases own : c.category = category
    · subst own
      show (t.database.pair c.category).SameMembers (Database.pair (t.database.write w) c.category)
      rw [Database.pair_record]
      exact SetPair.sameMembers_record (SetPair.gains_of_exclusive apart here)
    · exact .of_eq (Database.pair_write_other own)
  · have rescored : s.rescores origin r.1 category other = true ↔
        c.category = category ∧ m = other := by
      rw [rescores_of_proposes proposed, known, Option.some.injEq]
    rw [lastReading?_append]
    by_cases own : c.category = category
    · subst own
      show (Database.pair (t.database.write w) c.category other.side).score? other.domain = _
      rw [Database.pair_record, SetPair.score?_record_of_contains apart here, examined.scores]
      by_cases same : other = m
      · rw [if_pos same, if_pos (rescored.mpr ⟨rfl, same.symm⟩), Option.some_or]
      · rw [if_neg same, if_neg fun new => same (rescored.mp new).2.symm]
    · have elsewhere : (t.database.write w).pair category = t.database.pair category :=
        Database.pair_write_other own
      show (Database.pair (t.database.write w) category other.side).score? other.domain = _
      rw [elsewhere, examined.scores, if_neg fun new => own (rescored.mp new).1]
  · exact (Database.setAt_record m _ (foreign c.category)).trans (examined.others key foreign)
  · obtain ⟨database, queue, rfl⟩ := examined.rest
    exact ⟨_, _, rfl⟩

/-- An open match is put in the queue, unless it waits there. -/
theorem opened (examined : Examined s clock origin placed t count) (r : FilterResult × Nat)
    (proposed : s.proposal? origin r.1 = some c) (isOpen : s.IsOpen c) :
    Examined s clock origin (placed ++ [r]) (t.withQueue (t.session.queue.enqueue c).1)
      (if (t.session.queue.enqueue c).2 then count + 1 else count) := by
  obtain ⟨added, once, counted, queued, exact⟩ := examined.queue
  have proposes := proposal?_eq_some_iff.mp proposed
  have only : ∀ other, s.Proposes origin r.1 other ↔ other = c := by
    intro other
    rw [← proposal?_eq_some_iff, proposed, Option.some.injEq, eq_comm]
  have waits : t.session.queue.contains c = true ↔ s.Waits c ∨ c ∈ added := by
    rw [queued, Queue.contains_iff, Waits.iff_contains, Queue.contains_iff, List.map_append,
      List.mem_append]
    simp
  have unknown : ∀ category m, ¬ s.rescores origin r.1 category m = true := by
    intro category m
    rw [rescores_of_proposes proposed, (State.isOpen_iff.mp isOpen).2]
    exact fun rescored => nomatch rescored.2
  have same : ∃ database queue, t.withQueue (t.session.queue.enqueue c).1 =
      { s with database := database, session := { s.session with queue := queue } } := by
    obtain ⟨database, queue, rfl⟩ := examined.rest
    exact ⟨_, _, rfl⟩
  refine ⟨?_, examined.members, fun category m => ?_, examined.others, examined.healthy, same⟩
  · by_cases waiting : t.session.queue.contains c = true
    · have kept : t.session.queue.enqueue c = (t.session.queue, false) := if_pos waiting
      rw [kept]
      refine ⟨added, once, counted, queued, fun other => ?_⟩
      rw [exact]
      refine and_congr_right fun _ => and_congr_right fun new => ?_
      have earlier : other = c → ∃ q ∈ placed, s.Proposes origin q.1 other := by
        rintro rfl
        exact ((exact other).mp ((waits.mp waiting).resolve_left new)).2.2
      simp only [List.mem_append, List.mem_singleton, or_and_right, exists_or, exists_eq_left, only]
      exact ⟨Or.inl, fun either => either.elim id earlier⟩
    · have entered : t.session.queue.enqueue c =
          ({ t.session.queue with pending := t.session.queue.pending ++ [(c, 0)] }, true) :=
        if_neg waiting
      rw [waits, not_or] at waiting
      rw [entered]
      refine ⟨added ++ [c], ?_, ?_, ?_, fun other => ?_⟩
      · exact List.nodup_append.mpr ⟨once, List.nodup_singleton c, fun first there second here same =>
          waiting.2 (by rwa [← List.mem_singleton.mp here, ← same])⟩
      · rw [List.length_append, counted]
        rfl
      · show ({ t.session.queue with pending := _ } : Queue) = _
        rw [queued, List.map_append, List.append_assoc]
        rfl
      · rw [List.mem_append, List.mem_singleton, exact]
        simp only [List.mem_append, List.mem_singleton, or_and_right, exists_or, exists_eq_left, only]
        constructor
        · rintro (⟨isOpen, new, earlier⟩ | rfl)
          · exact ⟨isOpen, new, Or.inl earlier⟩
          · exact ⟨isOpen, waiting.1, Or.inr rfl⟩
        · rintro ⟨isOpen, new, earlier | rfl⟩
          · exact Or.inl ⟨isOpen, new, earlier⟩
          · exact Or.inr rfl
  · rw [lastReading?_append, if_neg (unknown category m)]
    exact examined.scores category m

/-- **One result more.** -/
theorem step (examined : Examined s clock origin placed t count)
    (held : ∀ category, (s.database.pair category).Exclusive) (r : FilterResult × Nat) :
    Examined s clock origin (placed ++ [r]) (examineResult clock origin (t, count) r).1
      (examineResult clock origin (t, count) r).2 := by
  have same : t.matchedCategory? r.1 = s.matchedCategory? r.1 := by
    unfold matchedCategory?
    rw [examined.registry]
  unfold examineResult
  rw [same]
  rcases matched : s.matchedCategory? r.1 with _ | category
  · refine examined.passed r fun c proposed => ?_
    unfold proposal? at proposed
    rw [matched] at proposed
    cases proposed
  · let c : Candidate := ⟨category, r.1.pattern origin, origin⟩
    have proposed : s.proposal? origin r.1 = some c := by
      unfold proposal?
      rw [matched]
      rfl
    have healthy := examined.healthy
    show Examined s clock origin (placed ++ [r])
      (t.examineMatch (clock (.result r.2)) c.category c.pattern c.origin).1
      (if (t.examineMatch (clock (.result r.2)) c.category c.pattern c.origin).2 then count + 1
        else count)
    cases excluded : (s.registry.exclusions c.category).coversAny [c.origin, c.pattern] with
    | true =>
      rw [examineMatch_excluded (by rw [examined.registry]; exact excluded)]
      refine examined.passed r fun other proposal => ?_
      rw [proposed] at proposal
      cases proposal
      exact excluded
    | false =>
      rcases known : s.knownAs? c with _ | m
      · have isOpen := State.isOpen_iff.mpr ⟨excluded, known⟩
        rw [examineMatch_opens healthy (examined.isOpen_iff.mpr isOpen)]
        exact examined.opened r proposed isOpen
      · rw [examineMatch_recalls healthy ((examined.knownAs?_eq c).trans known)]
        exact examined.recalled held r proposed known

theorem steps (held : ∀ category, (s.database.pair category).Exclusive)
    (more : List (FilterResult × Nat)) :
    ∀ {placed t count}, Examined s clock origin placed t count →
      Examined s clock origin (placed ++ more) (more.foldl (examineResult clock origin) (t, count)).1
        (more.foldl (examineResult clock origin) (t, count)).2 := by
  induction more with
  | nil =>
    intro placed t count examined
    rwa [List.append_nil]
  | cons r rest ih =>
    intro placed t count examined
    have next := ih (examined.step held r)
    rwa [List.append_assoc] at next

end Examined

/-! ### A whole detection -/

/-- The state in which the answer of the local filter comes in: the memo has the domain, and the filter
was asked about it. -/
def consulted (s : State) (origin : String) (instant : Int) : State :=
  { s with
    session := { s.session with memo := s.session.memo.record origin instant }
    asked := s.asked ++ [.filter (detectionRequest origin)] }

/-- A detection with the feature off, or of a domain that the memo has seen, does nothing. -/
theorem detect_unwanted {around : Surroundings}
    (unwanted : s.session.enabled = false ∨ s.session.memo.isFresh origin around.instant = true) :
    s.detect around origin = (s, 0) := by
  have closed : s.admits origin around.instant = (s, false) := by
    unfold admits Memo.seen
    rcases unwanted with off | seen
    · rw [if_neg (Bool.eq_false_iff.mp off)]
    · rw [if_pos seen]
      exact ite_self _
  unfold detect
  rw [closed]

theorem detect_wanted {around : Surroundings} (enabled : s.session.enabled = true)
    (unseen : s.session.memo.isFresh origin around.instant = false) :
    s.detect around origin = (s.consulted origin around.instant).receiveFilter around.clock origin
      (around.services.checkFilter (detectionRequest origin)) := by
  have admitted : s.admits origin around.instant =
      ({ s with session := { s.session with memo := s.session.memo.record origin around.instant } },
        true) := by
    unfold admits Memo.seen
    rw [if_pos enabled, if_neg (Bool.eq_false_iff.mp unseen)]
    rfl
  unfold detect
  rw [admitted]
  rfl

/-- **A detection queues exactly the open matches.** If the feature is on, the memo has not seen the domain
and the local filter answers, the open matches that did not wait before enter the queue behind what
waits there, and their number is returned. No set gains or loses a member; a known match has the score
of the last result about it; all else is as it was. If the feature is off or the memo has seen the
domain, nothing changes, and if the filter fails, neither the queue nor the database. -/
theorem detect_queues_open (healthy : s.database.Healthy)
    (held : ∀ category, (s.database.pair category).Exclusive) (around : Surroundings)
    (origin : String) :
    (s.session.enabled = true → s.session.memo.isFresh origin around.instant = false →
      ∀ response, around.services.checkFilter (detectionRequest origin) = .ok response →
      ∃ (added : List Candidate) (database : Database),
        s.detect around origin =
          (({ s.consulted origin around.instant with database := database }).withQueue
            { s.session.queue with
              pending := s.session.queue.pending ++ added.map fun c => (c, 0) }, added.length) ∧
        added.Nodup ∧
        (∀ c, c ∈ added ↔
          s.IsOpen c ∧ ¬ s.Waits c ∧ ∃ r ∈ response.results, s.Proposes origin r c) ∧
        (∀ category, (s.database.pair category).SameMembers (database.pair category)) ∧
        (∀ category m, (database.pair category m.side).score? m.domain =
          (s.lastReading? around.clock origin response.results.zipIdx category m).or
            ((s.database.pair category m.side).score? m.domain)) ∧
        ∀ key, (∀ category side, key ≠ Category.sideKey category side) →
          database.setAt key = s.database.setAt key) ∧
    (s.session.enabled = false ∨ s.session.memo.isFresh origin around.instant = true →
      s.detect around origin = (s, 0)) ∧
    ∀ cause, around.services.checkFilter (detectionRequest origin) = .error cause →
      (s.detect around origin).2 = 0 ∧
        (s.detect around origin).1.session.queue = s.session.queue ∧
        (s.detect around origin).1.database = s.database := by
  refine ⟨fun enabled unseen response answered => ?_, detect_unwanted, fun cause failed => ?_⟩
  · let start := s.consulted origin around.instant
    let placed := response.results.zipIdx
    have examined : Examined start around.clock origin placed
        (placed.foldl (examineResult around.clock origin) (start, 0)).1
        (placed.foldl (examineResult around.clock origin) (start, 0)).2 :=
      Examined.steps (s := start) held placed (examined_start healthy)
    rw [detect_wanted enabled unseen, answered]
    obtain ⟨added, once, counted, queued, exact⟩ := examined.queue
    obtain ⟨database, queue, whole⟩ := examined.rest
    -- The examination starts after the memo took the domain, and nothing asked here reads the memo.
    have proposes : ∀ c, (∃ r ∈ placed, start.Proposes origin r.1 c) ↔
        ∃ r ∈ response.results, s.Proposes origin r c := by
      intro c
      have same : ∀ r, start.Proposes origin r c ↔ s.Proposes origin r c := by
        intro r
        rw [← proposal?_eq_some_iff, ← proposal?_eq_some_iff]
        exact Iff.rfl
      have results : placed.map Prod.fst = response.results := List.zipIdx_map_fst 0 _
      simp only [same, ← results, List.mem_map, exists_exists_and_eq_and]
    refine ⟨added, database, Prod.ext ?_ counted.symm, once, fun c => ?_, ?_, ?_, ?_⟩
    · show (placed.foldl (examineResult around.clock origin) (start, 0)).1 = _
      rw [whole] at queued ⊢
      have queue_eq : queue = _ := queued
      rw [queue_eq]
      rfl
    · have isOpen : start.IsOpen c ↔ s.IsOpen c := by
        rw [State.isOpen_iff, State.isOpen_iff]
        exact Iff.rfl
      rw [exact, isOpen, proposes]
      exact Iff.rfl
    · rw [whole] at examined
      exact examined.members
    · rw [whole] at examined
      exact examined.scores
    · rw [whole] at examined
      exact examined.others
  · cases enabled : s.session.enabled with
    | false => rw [detect_unwanted (Or.inl enabled)]; exact ⟨rfl, rfl, rfl⟩
    | true =>
      cases seen : s.session.memo.isFresh origin around.instant with
      | true => rw [detect_unwanted (Or.inr seen)]; exact ⟨rfl, rfl, rfl⟩
      | false => rw [detect_wanted enabled seen, failed]; exact ⟨rfl, rfl, rfl⟩

/-- A category with one hit. -/
def oneKnown : State :=
  .new { Config.standard with categories := [.new "games"] }
    (Database.new.replace (Category.hitKey "games") (.insert .empty "a.com" 1))

/-- The local filter finds a domain three times: by a pattern, and twice by its own name. -/
def threeFound : FilterResponse :=
  ⟨[⟨"category:games", "a.com", .hit⟩, ⟨"category:games", "", .hit⟩, ⟨"category:games", "", .hit⟩]⟩

/-- Surroundings in which the local filter finds every domain so. -/
def finding : Surroundings where
  services := {
    checkFilter := fun _ => .ok threeFound
    membership := fun _ _ => .error .http
    intel := fun _ _ _ => .error .http
    listFile := fun _ => .error .notFound }
  clock
    | .result index => .ofNat (index + 2)
    | _ => 1
  instant := 0
  stopped _ := false

/-- One of three matches becomes a candidate: the first is known, and the third waits by then. -/
theorem detect_queues_open_finding :
    oneKnown.database.Healthy ∧ (∀ category, (oneKnown.database.pair category).Exclusive) ∧
      oneKnown.session.enabled = true ∧ oneKnown.session.memo.isFresh "b.com" 0 = false ∧
      (oneKnown.detect finding "b.com").1.session.queue.pending =
        [(⟨"games", "b.com", "b.com"⟩, 0)] ∧
      ((oneKnown.detect finding "b.com").1.database.pair "games" .hit).score? "a.com" = some 2 ∧
      ∃ (added : List Candidate) (database : Database),
        oneKnown.detect finding "b.com" =
          (({ oneKnown.consulted "b.com" 0 with database := database }).withQueue
            { oneKnown.session.queue with
              pending := oneKnown.session.queue.pending ++ added.map fun c => (c, 0) },
            added.length) ∧
        added.Nodup ∧
        (∀ c, c ∈ added ↔ oneKnown.IsOpen c ∧ ¬ oneKnown.Waits c ∧
          ∃ r ∈ threeFound.results, oneKnown.Proposes "b.com" r c) ∧
        (∀ category, (oneKnown.database.pair category).SameMembers (database.pair category)) ∧
        (∀ category m, (database.pair category m.side).score? m.domain =
          (oneKnown.lastReading? finding.clock "b.com" threeFound.results.zipIdx category m).or
            ((oneKnown.database.pair category m.side).score? m.domain)) ∧
        ∀ key, (∀ category side, key ≠ Category.sideKey category side) →
          database.setAt key = oneKnown.database.setAt key := by
  have exclusive : ∀ category, (oneKnown.database.pair category).Exclusive :=
    Database.exclusive_hits (fun _ => rfl) "games" _
  have enabled : oneKnown.session.enabled = true := by decide +kernel
  obtain ⟨answered, -, -⟩ := detect_queues_open ⟨rfl, rfl⟩ exclusive finding "b.com"
  exact ⟨⟨rfl, rfl⟩, exclusive, enabled, rfl, by decide +kernel, by decide +kernel,
    answered enabled rfl threeFound rfl⟩

end State

end CategoryFilter
