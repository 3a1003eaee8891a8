/-
**Concurrent calls on the two sets of a category.**

A call takes a name out of one set and then puts it into the other, by two statements, and another call may
come between them:

* `never_both`: a name that no two of the calls put into different sets is never in both, at no moment of
  any schedule, so neither where a crash stops it.
* `exists_both`: a name that two calls put into different sets, each between the statements of the other, is
  in both when all calls have returned.
* `interleaved_exclusive_iff`: so the sets have no common name after every schedule exactly if there are no
  two such calls.
* `interleaved_both`: the schedule of two calls.
-/

import CategoryFilter.Proofs.Store.Statement
import CategoryFilter.Store.Schema

namespace CategoryFilter

/-- Some calls put a name into both sets. -/
def Clash (calls : List PairCall) (name : String) : Prop :=
  ∀ side, ∃ score, PairCall.add ⟨name, side⟩ score ∈ calls

namespace Concurrent

open Category (sideKey)
open Database (execute)

variable {db : Database} {category name : String} {c : Concurrent} {calls : List PairCall}
  {side : Side} {st : Statement} {rest : List Statement} {i j k : Nat}

/-! ### Names that no two calls put into different sets -/

/-- What is left of a call that has a statement to do. -/
theorem next_statement {call : PairCall} (left : st :: rest <:+ call.statements) :
    (∃ m, st = .erase m ∧
      (rest = [] ∨ ∃ score, rest = [.insert ⟨m.domain, m.side.opposite⟩ score])) ∨
    ∃ m score, st = .insert m score ∧ rest = [] ∧ call = .add m score := by
  cases call with
  | add m score =>
    rcases List.suffix_cons_iff.mp left with whole | last
    · obtain ⟨rfl, rfl⟩ := List.cons.inj whole
      refine Or.inl ⟨_, rfl, Or.inr ⟨score, ?_⟩⟩
      obtain ⟨domain, own⟩ := m
      cases own <;> rfl
    · rcases List.suffix_cons_iff.mp last with whole | last
      · obtain ⟨rfl, rfl⟩ := List.cons.inj whole
        exact Or.inr ⟨m, score, rfl, rfl, rfl⟩
      · cases List.suffix_nil.mp last
  | remove m =>
    rcases List.suffix_cons_iff.mp left with whole | last
    · obtain ⟨rfl, rfl⟩ := List.cons.inj whole
      exact Or.inl ⟨m, rfl, Or.inl rfl⟩
    · cases List.suffix_nil.mp last

/-- A name while calls are under way that put it into one set only: it is not in both sets, and a call that
is about to insert it there finds it in neither or there already. -/
structure Settled (calls : List PairCall) (category name : String) (side : Side) (c : Concurrent) :
    Prop where
  shape : ∀ left ∈ c.running, ∃ call ∈ calls, left <:+ call.statements
  single : (c.database.pair category side).contains name = true →
    (c.database.pair category side.opposite).contains name = false
  halfway : ∀ score, [.insert ⟨name, side⟩ score] ∈ c.running →
    (c.database.pair category side.opposite).contains name = false

theorem settled_begin (exclusive : (db.pair category).Exclusive) :
    Settled calls category name side (begin db calls) := by
  refine ⟨fun left listed => ?_, fun here => ?_, fun score listed => ?_⟩
  · obtain ⟨call, there, rfl⟩ := List.mem_map.mp listed
    exact ⟨call, there, List.suffix_refl _⟩
  · refine Bool.eq_false_iff.mpr fun across => exclusive name ?_
    cases side with
    | hit => exact ⟨here, across⟩
    | passthrough => exact ⟨across, here⟩
  · obtain ⟨call, -, same⟩ := List.mem_map.mp listed
    cases call <;> cases same

/-- The next statement of any call keeps a name settled. -/
theorem Settled.advance (free : ∀ score, PairCall.add ⟨name, side.opposite⟩ score ∉ calls)
    (settled : Settled calls category name side c) (i : Nat) :
    Settled calls category name side (c.advance category i) := by
  rcases waiting : c.left i with _ | ⟨st, rest⟩
  · rwa [advance_idle waiting]
  · obtain ⟨call, there, left⟩ := settled.shape _ (mem_of_left waiting)
    rw [advance_waiting waiting]
    let answer := execute (st.action category) c.database
    have shape : ∀ left ∈ c.running.set i (remaining answer.1 rest),
        ∃ call ∈ calls, left <:+ call.statements := by
      intro later listed
      rcases List.mem_or_eq_of_mem_set listed with old | rfl
      · exact settled.shape later old
      · refine ⟨call, there, ?_⟩
        cases answer.1 with
        | ok changed => exact (List.suffix_cons _ _).trans left
        | error cause => exact List.nil_suffix
    -- No statement puts the name into the other set, since no call does.
    have kept : (c.database.pair category side.opposite).contains name = false →
        (answer.2.pair category side.opposite).contains name = false := by
      intro absent
      refine Bool.eq_false_iff.mpr fun held => ?_
      rcases Statement.held_before held with before | ⟨score, rfl⟩
      · rw [absent] at before
        cases before
      · rcases next_statement left with ⟨m, impossible, -⟩ | ⟨m, other, same, -, rfl⟩
        · cases impossible
        · cases same
          exact free score there
    refine ⟨shape, fun here => ?_, fun score listed => ?_⟩
    · rcases Statement.held_before here with before | ⟨score, rfl⟩
      · exact kept (settled.single before)
      · rcases next_statement left with ⟨m, impossible, -⟩ | ⟨m, other, same, rfl, rfl⟩
        · cases impossible
        · exact kept (settled.halfway score (mem_of_left waiting))
    · rcases List.mem_or_eq_of_mem_set listed with old | new
      · exact kept (settled.halfway score old)
      · rcases outcome : answer.1 with _ | changed
        · rw [outcome] at new
          cases new
        · rw [outcome] at new
          have new : [.insert ⟨name, side⟩ score] = rest := new
          rcases next_statement left with ⟨m, rfl, rfl | ⟨score, rfl⟩⟩ | ⟨m, other, rfl, rfl, rfl⟩
          · cases new
          · have gone := Statement.erase_gone outcome
            obtain ⟨domain, own⟩ := m
            cases new
            cases own <;> exact gone
          · cases new

theorem Settled.interleave (free : ∀ score, PairCall.add ⟨name, side.opposite⟩ score ∉ calls)
    (schedule : List Nat) : ∀ c : Concurrent, Settled calls category name side c →
      Settled calls category name side (c.interleave category schedule) := by
  induction schedule with
  | nil => exact fun _ settled => settled
  | cons i rest ih => exact fun c settled => ih (c.advance category i) (settled.advance free i)

/-- The next statement of any call leaves a name where it is that the database refuses. -/
theorem advance_refused (refused : ¬ c.database.Accepts name) (i : Nat) :
    ¬ (c.advance category i).database.Accepts name ∧
      ∀ side, ((c.advance category i).database.pair category side).contains name =
        (c.database.pair category side).contains name := by
  rcases waiting : c.left i with _ | ⟨st, rest⟩
  · rw [advance_idle waiting]
    exact ⟨refused, fun _ => rfl⟩
  · rw [advance_waiting waiting]
    refine ⟨fun accepted => refused ((Statement.accepts_execute st).mp accepted), fun side => ?_⟩
    by_cases own : name = st.member.domain
    · rw [Statement.execute_refused (own ▸ refused)]
    · exact Statement.contains_other own

theorem interleave_refused (category : String) (schedule : List Nat) :
    ∀ c : Concurrent, ¬ c.database.Accepts name → ∀ side,
      ((c.interleave category schedule).database.pair category side).contains name =
        (c.database.pair category side).contains name := by
  induction schedule with
  | nil => exact fun _ _ _ => rfl
  | cons i rest ih =>
    intro c refused side
    obtain ⟨later, kept⟩ := advance_refused refused i
    exact (ih _ later side).trans (kept side)

/-- A name is in both sets. -/
def Both (c : Concurrent) (category name : String) : Prop :=
  ∀ side, (c.database.pair category side).contains name = true

/-- **A name that no two calls put into different sets is never in both**, at no moment of a schedule. -/
theorem never_both (exclusive : (db.pair category).Exclusive)
    (apart : db.Accepts name → ¬ Clash calls name) (schedule : List Nat) :
    ¬ ((begin db calls).interleave category schedule).Both category name := by
  intro both
  by_cases accepted : db.Accepts name
  · obtain ⟨side, free⟩ := not_forall.mp (apart accepted)
    have own : side.opposite.opposite = side := by cases side <;> rfl
    have settled : Settled calls category name side.opposite
        ((begin db calls).interleave category schedule) := by
      refine Settled.interleave (fun score listed => free ⟨score, ?_⟩) schedule _
        (settled_begin exclusive)
      rwa [own] at listed
    have across := settled.single (both _)
    rw [own, both side] at across
    cases across
  · have kept := interleave_refused category schedule (begin db calls) accepted
    exact exclusive name ⟨(kept .hit).symm.trans (both .hit),
      (kept .passthrough).symm.trans (both .passthrough)⟩

/-! ### Names that two calls put into different sets -/

theorem left_advance_other (other : k ≠ i) : (c.advance category k).left i = c.left i := by
  rcases waiting : c.left k with _ | ⟨st, rest⟩
  · rw [advance_idle waiting]
  · rw [advance_waiting waiting]
    unfold left
    rw [List.getElem?_set_ne other]

theorem left_advance_self (waiting : c.left i = st :: rest) :
    (c.advance category i).left i =
      remaining (execute (st.action category) c.database).1 rest := by
  have inside : i < c.running.length :=
    (List.getElem?_eq_some_iff.mp (running_of_left waiting)).1
  rw [advance_waiting waiting]
  unfold left
  rw [List.getElem?_set_self inside]
  rfl

theorem accepts_advance : (c.advance category i).database.Accepts name ↔ c.database.Accepts name := by
  rcases waiting : c.left i with _ | ⟨st, rest⟩
  · rw [advance_idle waiting]
  · rw [advance_waiting waiting]
    exact Statement.accepts_execute st

/-- A call has a statement less to do after its turn. -/
theorem length_left_advance (c : Concurrent) (category : String) (i : Nat) :
    ((c.advance category i).left i).length ≤ (c.left i).length - 1 := by
  rcases waiting : c.left i with _ | ⟨st, rest⟩
  · rw [advance_idle waiting, waiting]
    exact Nat.le_refl 0
  · rw [left_advance_self waiting]
    cases (execute (st.action category) c.database).1 with
    | ok changed => exact Nat.le_refl _
    | error cause => exact Nat.zero_le _

/-- Two turns for each of some calls, one call after the other. -/
def turnsOf (places : List Nat) : List Nat :=
  places.flatMap fun k => [k, k]

/-- Calls of two statements at most have returned after two turns each, and the others wait as before. -/
theorem interleave_turnsOf (category name : String) (places : List Nat) :
    ∀ c : Concurrent, (∀ k, (c.left k).length ≤ 2) →
      (∀ k, k ∈ places ∨ c.left k = [] →
        (c.interleave category (turnsOf places)).left k = []) ∧
      (∀ k, k ∉ places → (c.interleave category (turnsOf places)).left k = c.left k) ∧
      ((c.interleave category (turnsOf places)).database.Accepts name ↔ c.database.Accepts name) := by
  induction places with
  | nil =>
    exact fun c _ => ⟨fun _ done => done.resolve_left List.not_mem_nil, fun _ _ => rfl, Iff.rfl⟩
  | cons first rest ih =>
    intro c short
    let next := (c.advance category first).advance category first
    have done : next.left first = [] := by
      refine List.eq_nil_of_length_eq_zero ?_
      have once := length_left_advance c category first
      have twice : (next.left first).length ≤ _ :=
        length_left_advance (c.advance category first) category first
      have two := short first
      omega
    have others : ∀ k, k ≠ first → next.left k = c.left k := fun k other =>
      (left_advance_other other.symm).trans (left_advance_other other.symm)
    have still : ∀ k, (next.left k).length ≤ 2 := by
      intro k
      by_cases same : k = first
      · rw [same, done]
        exact Nat.zero_le 2
      · rw [others k same]
        exact short k
    obtain ⟨finished, kept, accepts⟩ := ih next still
    refine ⟨fun k listed => ?_, fun k absent => ?_, ?_⟩
    · by_cases same : k = first
      · exact finished k (Or.inr (same ▸ done))
      · refine finished k ?_
        rw [others k same]
        exact listed.imp_left fun there => (List.mem_cons.mp there).resolve_left same
    · obtain ⟨other, absent⟩ := not_or.mp (mt List.mem_cons.mpr absent)
      exact (kept k absent).trans (others k other)
    · exact accepts.trans (accepts_advance.trans accepts_advance)

theorem left_advance_accepted (waiting : c.left i = st :: rest)
    (accepted : c.database.Accepts st.member.domain) : (c.advance category i).left i = rest := by
  obtain ⟨changed, done⟩ := Statement.exists_ok accepted category
  rw [left_advance_self waiting, done]
  rfl

theorem contains_advance_insert {m : Member} {score : Score} {side : Side}
    (waiting : c.left i = [.insert m score]) (accepted : c.database.Accepts m.domain) :
    ((c.advance category i).database.pair category side).contains name =
      ((c.database.pair category side).contains name || ⟨name, side⟩ == m) := by
  rw [advance_waiting waiting]
  exact Statement.contains_insert accepted

/-- Two calls that put a name into different sets, each with its first statement before the last of the
other. -/
theorem race (category : String) {score other : Score} (different : i ≠ j)
    (accepted : c.database.Accepts name)
    (first : c.left i = [.erase ⟨name, .passthrough⟩, .insert ⟨name, .hit⟩ score])
    (second : c.left j = [.erase ⟨name, .hit⟩, .insert ⟨name, .passthrough⟩ other]) :
    let last := c.interleave category [i, j, i, j]
    last.left i = [] ∧ last.left j = [] ∧ (∀ k, k ≠ i → k ≠ j → last.left k = c.left k) ∧
      last.Both category name := by
  intro last
  let one := c.advance category i
  let two := one.advance category j
  let three := two.advance category i
  have accepted₁ : one.database.Accepts name := accepts_advance.mpr accepted
  have accepted₂ : two.database.Accepts name := accepts_advance.mpr accepted₁
  have accepted₃ : three.database.Accepts name := accepts_advance.mpr accepted₂
  have first₁ : one.left i = [.insert ⟨name, .hit⟩ score] := left_advance_accepted first accepted
  have second₁ : one.left j = _ := (left_advance_other different).trans second
  have first₂ : two.left i = _ := (left_advance_other different.symm).trans first₁
  have second₂ : two.left j = [.insert ⟨name, .passthrough⟩ other] :=
    left_advance_accepted second₁ accepted₁
  have first₃ : three.left i = [] := left_advance_accepted first₂ accepted₂
  have second₃ : three.left j = _ := (left_advance_other different).trans second₂
  refine ⟨(left_advance_other different.symm).trans first₃,
    left_advance_accepted second₃ accepted₃, fun k notFirst notSecond => ?_, fun side => ?_⟩
  · calc last.left k = three.left k := left_advance_other notSecond.symm
      _ = two.left k := left_advance_other notFirst.symm
      _ = one.left k := left_advance_other notSecond.symm
      _ = c.left k := left_advance_other notFirst.symm
  · have hit : (three.database.pair category .hit).contains name = true := by
      show ((two.advance category i).database.pair category .hit).contains name = true
      rw [contains_advance_insert first₂ accepted₂, beq_self_eq_true, Bool.or_true]
    show ((three.advance category j).database.pair category side).contains name = true
    rw [contains_advance_insert second₃ accepted₃]
    cases side with
    | hit => rw [hit, Bool.true_or]
    | passthrough => rw [beq_self_eq_true, Bool.or_true]

theorem left_begin (db : Database) {call : PairCall} (there : calls[i]? = some call) :
    (begin db calls).left i = call.statements := by
  unfold left begin
  rw [List.getElem?_map, there]
  rfl

theorem left_begin_outside (db : Database) (outside : calls.length ≤ i) :
    (begin db calls).left i = [] := by
  unfold left begin
  rw [List.getElem?_map, List.getElem?_eq_none outside]
  rfl

theorem length_left_begin (db : Database) (calls : List PairCall) (i : Nat) :
    ((begin db calls).left i).length ≤ 2 := by
  rcases there : calls[i]? with _ | call
  · rw [left_begin_outside db (List.getElem?_eq_none_iff.mp there)]
    exact Nat.zero_le 2
  · rw [left_begin db there]
    cases call with
    | add m score => exact Nat.le_refl 2
    | remove m => exact Nat.le_succ 1

/-- **A name that two calls put into different sets can end up in both.** -/
theorem exists_both (category : String) (accepted : db.Accepts name) (clash : Clash calls name) :
    ∃ schedule, ((begin db calls).interleave category schedule).Returned ∧
      ((begin db calls).interleave category schedule).Both category name := by
  obtain ⟨score, hit⟩ := clash .hit
  obtain ⟨other, passthrough⟩ := clash .passthrough
  obtain ⟨i, first⟩ := List.getElem?_of_mem hit
  obtain ⟨j, second⟩ := List.getElem?_of_mem passthrough
  have different : i ≠ j := by
    rintro rfl
    rw [first] at second
    cases second
  -- All other calls come first, so that none of them takes the name out again.
  let others := (List.range calls.length).filter fun k => k ≠ i ∧ k ≠ j
  have absent : i ∉ others ∧ j ∉ others := by simp [others]
  let quiet := (begin db calls).interleave category (turnsOf others)
  obtain ⟨finished, kept, accepts⟩ := interleave_turnsOf category name others
    (begin db calls) (length_left_begin db calls)
  obtain ⟨last, final, rest, both⟩ := race category (c := quiet) different
    (accepts.mpr accepted) ((kept i absent.1).trans (left_begin db first))
    ((kept j absent.2).trans (left_begin db second))
  have split : (begin db calls).interleave category (turnsOf others ++ [i, j, i, j]) =
      quiet.interleave category [i, j, i, j] := List.foldl_append ..
  refine ⟨turnsOf others ++ [i, j, i, j], fun k => ?_, ?_⟩
  · rw [split]
    by_cases own : k = i
    · rw [own, last]
    · by_cases across : k = j
      · rw [across, final]
      · rw [rest k own across]
        refine finished k ?_
        by_cases inside : k < calls.length
        · exact Or.inl (List.mem_filter.mpr ⟨List.mem_range.mpr inside, by simp [own, across]⟩)
        · exact Or.inr (left_begin_outside db (Nat.le_of_not_lt inside))
  · rwa [split]

/-! ### All schedules -/

/-- **Concurrent calls keep the sets apart exactly if no two of them put one name into both.** From sets
without a common name, the sets have none after every schedule by which all calls return exactly if no name
that the database accepts is put into both; a name that is not is in at most one set at any moment. -/
theorem interleaved_exclusive_iff (db : Database) (category : String) (calls : List PairCall)
    (exclusive : (db.pair category).Exclusive) :
    ((∀ schedule, ((begin db calls).interleave category schedule).Returned →
        (((begin db calls).interleave category schedule).database.pair category).Exclusive) ↔
      ∀ name, db.Accepts name → ¬ Clash calls name) ∧
    (∀ name, (db.Accepts name → ¬ Clash calls name) → ∀ schedule,
      ¬ ((begin db calls).interleave category schedule).Both category name) := by
  refine ⟨⟨fun kept name accepted clash => ?_, fun apart schedule _ name both => ?_⟩,
    fun name apart => never_both exclusive apart⟩
  · obtain ⟨schedule, returned, both⟩ := exists_both category accepted clash
    exact kept schedule returned name ⟨both .hit, both .passthrough⟩
  · refine never_both exclusive (apart name) schedule fun side => ?_
    cases side with
    | hit => exact both.1
    | passthrough => exact both.2

theorem exclusive_new (category : String) : (Database.new.pair category).Exclusive := by
  rintro name ⟨hit, -⟩
  cases hit

/-- Two calls for different names. -/
theorem interleaved_exclusive_iff_apart :
    (Database.new.pair "games").Exclusive ∧
      ((∀ schedule,
          ((begin .new [.add ⟨"a.com", .hit⟩ 1, .add ⟨"b.com", .passthrough⟩ 2]).interleave "games"
            schedule).Returned →
          (((begin .new [.add ⟨"a.com", .hit⟩ 1, .add ⟨"b.com", .passthrough⟩ 2]).interleave "games"
            schedule).database.pair "games").Exclusive) ↔
        ∀ name, Database.new.Accepts name →
          ¬ Clash [.add ⟨"a.com", .hit⟩ 1, .add ⟨"b.com", .passthrough⟩ 2] name) ∧
      ∀ name, (Database.new.Accepts name →
          ¬ Clash [.add ⟨"a.com", .hit⟩ 1, .add ⟨"b.com", .passthrough⟩ 2] name) → ∀ schedule,
        ¬ ((begin .new [.add ⟨"a.com", .hit⟩ 1, .add ⟨"b.com", .passthrough⟩ 2]).interleave "games"
          schedule).Both "games" name :=
  ⟨exclusive_new "games", interleaved_exclusive_iff .new "games"
    [.add ⟨"a.com", .hit⟩ 1, .add ⟨"b.com", .passthrough⟩ 2] (exclusive_new "games")⟩

/-- **Two calls leave a name in both sets.** Each takes it out of the other's set before either puts it in. -/
theorem interleaved_both :
    (Database.new.pair "games").Exclusive ∧
      ((begin .new [.add ⟨"a.com", .hit⟩ 1, .add ⟨"a.com", .passthrough⟩ 2]).interleave "games"
        [0, 1, 0, 1]).Returned ∧
      ((begin .new [.add ⟨"a.com", .hit⟩ 1, .add ⟨"a.com", .passthrough⟩ 2]).interleave "games"
        [0, 1, 0, 1]).Both "games" "a.com" := by
  refine ⟨exclusive_new "games", fun i => ?_, fun side => ?_⟩
  · rcases i with _ | _ | i
    · decide +kernel
    · decide +kernel
    · rfl
  · cases side with
    | hit => decide +kernel
    | passthrough => decide +kernel

end Concurrent

end CategoryFilter
