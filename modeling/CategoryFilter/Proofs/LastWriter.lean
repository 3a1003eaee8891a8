/-
**The last candidate to write a name decides where it is.**

A confirmation of a category settles the candidates on whose keys its source did not fail (`Settled`).
Each of them writes one name (`written`), and what one writes may be taken away by a later one, since
patterns and origins are names of one kind. They are settled in ascending order, so the greatest that
writes a name `Decides` it:

* `exists_decides`, `lastSide?_entries_eq_none_iff`: the last recording of a name is the one its greatest
  writer makes, and a name without a writer has none.
* `confirmation_classifies`: both sets of a category after a confirmation, before and after their cut.
-/

import CategoryFilter.Proofs.Enforcement
import CategoryFilter.Proofs.SetCap

namespace CategoryFilter.State

open Category (setKeys)
open Database (execute)

variable {s : State} {services : Services} {clock : Clock} {confirmation : Confirmation}
  {category name : String} {c : Candidate} {side : Side}

/-- A candidate of a category is settled: the source did not fail on its key. -/
structure Settled (s : State) (category : String) (confirmation : Confirmation) (c : Candidate) :
    Prop where
  waits : s.Waits c
  own : c.category = category
  answered : (s.source category).key c ∉ confirmation.failed

/-- What a settled candidate of a category writes: its pattern into the hits, if its key is confirmed and
nothing of it is excluded, else its origin into the passthroughs. -/
def written (s : State) (category : String) (confirmation : Confirmation) (c : Candidate) : Member :=
  if (s.source category).key c ∈ confirmation.confirmed ∧
      (s.registry.exclusions category).covers c.pattern = false ∧
      (s.registry.exclusions category).covers c.origin = false then
    ⟨c.pattern, .hit⟩
  else ⟨c.origin, .passthrough⟩

/-- Some settled candidate of a category writes a name. -/
def Written (s : State) (category : String) (confirmation : Confirmation) (name : String) : Prop :=
  ∃ c, s.Settled category confirmation c ∧ (s.written category confirmation c).domain = name

/-- A candidate is the greatest of those that write a name. -/
structure Decides (s : State) (category : String) (confirmation : Confirmation) (name : String)
    (c : Candidate) : Prop where
  settled : s.Settled category confirmation c
  writes : (s.written category confirmation c).domain = name
  greatest : ∀ other, s.Settled category confirmation other →
    (s.written category confirmation other).domain = name → other = c ∨ other.before c = true

/-- What a settled candidate writes is what settling it records. -/
theorem recording?_eq_some_iff {m : Member} :
    (s.ruling clock category confirmation).recording? c = some m ↔
      (s.source category).key c ∉ confirmation.failed ∧
        s.written category confirmation c = m := by
  have failed : (s.ruling clock category confirmation).confirmation.failed.contains
      ((s.ruling clock category confirmation).source.key c) = true ↔
      (s.source category).key c ∈ confirmation.failed := List.contains_iff_mem
  have hit : (s.ruling clock category confirmation).isHit c = true ↔
      (s.source category).key c ∈ confirmation.confirmed ∧
        (s.registry.exclusions category).covers c.pattern = false ∧
        (s.registry.exclusions category).covers c.origin = false := by
    rw [isHit_iff, List.contains_iff_mem]
    exact Iff.rfl
  unfold Ruling.recording? written
  simp only [failed, hit]
  by_cases missed : (s.source category).key c ∈ confirmation.failed
  · simp [missed]
  · rw [if_neg missed, and_iff_right missed, ← apply_ite some, Option.some.injEq]

theorem settled_of_candidate {p : Pending} (listed : p ∈ s.candidates category)
    (answered : (s.source category).key p.1 ∉ confirmation.failed) :
    s.Settled category confirmation p.1 := by
  obtain ⟨waiting, own⟩ := List.mem_filter.mp listed
  exact ⟨⟨p.2, mem_sortPending.mp waiting⟩, of_decide_eq_true own, answered⟩

theorem exists_candidate (settled : s.Settled category confirmation c) :
    ∃ p ∈ s.candidates category, p.1 = c := by
  obtain ⟨attempts, waiting⟩ := settled.waits
  have listed := mem_candidates waiting
  rw [show ((c, attempts) : Pending).1.category = category from settled.own] at listed
  exact ⟨_, listed, rfl⟩

/-- **The last recording of a name is that of its greatest writer.** -/
theorem exists_decides (last : SetPair.lastSide? name
      ((s.ruling clock category confirmation).entries (s.candidates category)) = some side) :
    ∃ c, s.Decides category confirmation name c ∧
      (s.written category confirmation c).side = side := by
  obtain ⟨p, listed, recorded, greatest⟩ :=
    SetPair.exists_last (ordered_candidates s category) last
  obtain ⟨answered, written⟩ := recording?_eq_some_iff.mp recorded
  refine ⟨p.1, ⟨settled_of_candidate listed answered, congrArg Member.domain written,
    fun other settled same => ?_⟩, congrArg Member.side written⟩
  obtain ⟨q, there, rfl⟩ := exists_candidate settled
  have order := greatest q there _ (recording?_eq_some_iff.mpr ⟨settled.answered, rfl⟩) same
  by_cases equal : q.1 = p.1
  · exact Or.inl equal
  · refine Or.inr ((Candidate.before_or_before equal).resolve_right ?_)
    exact order.resolve_left fun identical => equal (congrArg Prod.fst identical)

theorem lastSide?_entries_eq_none_iff : SetPair.lastSide? name
      ((s.ruling clock category confirmation).entries (s.candidates category)) = none ↔
    ¬ s.Written category confirmation name := by
  rw [SetPair.lastSide?_eq_none_iff]
  constructor
  · rintro none ⟨c, settled, writes⟩
    obtain ⟨p, listed, rfl⟩ := exists_candidate settled
    refine none _ (List.mem_flatMap.mpr ⟨p, listed, Option.mem_toList.mpr ?_⟩) writes
    exact recording?_eq_some_iff.mpr ⟨settled.answered, rfl⟩
  · intro unwritten m listed writes
    obtain ⟨p, there, made⟩ := List.mem_flatMap.mp listed
    obtain ⟨answered, written⟩ := recording?_eq_some_iff.mp (Option.mem_toList.mp made)
    refine unwritten ⟨p.1, settled_of_candidate there answered, ?_⟩
    rw [written, writes]

/-- Before the cut, a written name is where its greatest writer puts it. -/
theorem score?_recorded_written (writes : s.Written category confirmation name) (clock : Clock) :
    ∃ c, s.Decides category confirmation name c ∧ ∀ side,
      (s.recorded clock category confirmation (s.candidates category) side).score? name =
        if side = (s.written category confirmation c).side then some (clock (.confirmation category))
        else none := by
  cases last : SetPair.lastSide? name
      ((s.ruling clock category confirmation).entries (s.candidates category)) with
  | none => exact absurd writes (lastSide?_entries_eq_none_iff.mp last)
  | some decided =>
    obtain ⟨c, decides, chosen⟩ := exists_decides last
    refine ⟨c, decides, fun side => ?_⟩
    unfold State.recorded
    rw [SetPair.score?_recordAll, last, chosen]

theorem score?_recorded_unwritten (unwritten : ¬ s.Written category confirmation name)
    (clock : Clock) (side : Side) :
    (s.recorded clock category confirmation (s.candidates category) side).score? name =
      (s.database.pair category side).score? name := by
  unfold State.recorded
  rw [SetPair.score?_recordAll, lastSide?_entries_eq_none_iff.mpr unwritten]

/-- **A confirmation classifies each written name by its greatest writer.** Before the cut, a name that
settled candidates write is in the set which the greatest of them chose and in no other, with the score
of the confirmation, and any other name is as it was. The cut leaves in each set the entries with fewer
than the limit of entries above them. -/
theorem confirmation_classifies (healthy : s.database.Healthy) (countable : s.Countable)
    (waits : ∃ c, s.Waits c ∧ c.category = category)
    (recorded : (s.registry.strategy category).updateConfirmSet = true)
    (answered : (s.consult services category (s.candidates category)).2 = .ok confirmation)
    (clock : Clock) :
    ∃ db : Database,
      (∀ name, s.Written category confirmation name →
        ∃ c, s.Decides category confirmation name c ∧ ∀ side, (db.pair category side).score? name =
          if side = (s.written category confirmation c).side then some (clock (.confirmation category))
          else none) ∧
      (∀ name, ¬ s.Written category confirmation name → ∀ side,
        (db.pair category side).score? name = (s.database.pair category side).score? name) ∧
      (s.confirmQueued services clock).1.database.pair category =
        (execute (Classification.trim (setKeys category) s.config.maxSetSize.toNat) db).2.pair
          category ∧
      ∀ side e, e ∈ ((s.confirmQueued services clock).1.database.pair category side).entries ↔
        e ∈ (db.pair category side).entries ∧
          (db.pair category side).entries.countP (fun x => decide (e.Before x)) <
            s.config.maxSetSize.toNat := by
  obtain ⟨c, ⟨attempts, waiting⟩, own⟩ := waits
  obtain ⟨u, turn, after⟩ := exists_turn waiting own services clock
  have strategy : (u.registry.strategy category).updateConfirmSet = true := by
    rw [turn.registry]
    exact recorded
  have answer : (u.consult services category (s.candidates category)).2 = .ok confirmation := by
    rw [turn.consult_eq]
    exact answered
  -- `db` is what the turn of the category wrote before it cut the sets.
  obtain ⟨db, sound, pair, cut⟩ := exists_cut (turn.healthy healthy) strategy answer clock
  have small : ∀ side, (db.pair category side).size < SortedSet.countBound := by
    rw [pair]
    exact countable.recorded turn clock confirmation
  have trimmed : (s.confirmQueued services clock).1.database.pair category =
      (execute (Classification.trim (setKeys category) s.config.maxSetSize.toNat) db).2.pair
        category := by
    rw [after, ← turn.config]
    exact congrArg (fun db : Database => db.pair category) cut
  rw [turn.recorded_eq] at pair
  refine ⟨db, fun name writes => ?_, fun name unwritten side => ?_, trimmed, fun side e => ?_⟩
  · rw [pair]
    exact score?_recorded_written writes clock
  · rw [pair]
    exact score?_recorded_unwritten unwritten clock side
  · rw [trimmed, Database.pair_trim sound small]
    exact SortedSet.mem_newest

/-- Two candidates write `x.com`, the first as a hit and the second as a passthrough. -/
theorem confirmation_classifies_twoMatches :
    twoMatches.database.Healthy ∧ twoMatches.Countable ∧
      (∃ c, twoMatches.Waits c ∧ c.category = "games") ∧
      (twoMatches.registry.strategy "games").updateConfirmSet = true ∧
      (twoMatches.consult oneName "games" (twoMatches.candidates "games")).2 = .ok ⟨["a.x.com"], []⟩ ∧
      twoMatches.Written "games" ⟨["a.x.com"], []⟩ "x.com" ∧
      ∃ db : Database,
        (∀ name, twoMatches.Written "games" ⟨["a.x.com"], []⟩ name →
          ∃ c, twoMatches.Decides "games" ⟨["a.x.com"], []⟩ name c ∧
            ∀ side, (db.pair "games" side).score? name =
              if side = (twoMatches.written "games" ⟨["a.x.com"], []⟩ c).side then some 1
              else none) ∧
        (∀ name, ¬ twoMatches.Written "games" ⟨["a.x.com"], []⟩ name → ∀ side,
          (db.pair "games" side).score? name = (twoMatches.database.pair "games" side).score? name) ∧
        (twoMatches.confirmQueued oneName fun _ => 1).1.database.pair "games" =
          (execute (Classification.trim (setKeys "games") twoMatches.config.maxSetSize.toNat) db).2.pair
            "games" ∧
        ∀ side e,
          e ∈ ((twoMatches.confirmQueued oneName fun _ => 1).1.database.pair "games" side).entries ↔
            e ∈ (db.pair "games" side).entries ∧
              (db.pair "games" side).entries.countP (fun x => decide (e.Before x)) <
                twoMatches.config.maxSetSize.toNat := by
  have first : ((⟨"games", "x.com", "a.x.com"⟩, 0) : Pending) ∈ twoMatches.session.queue.pending := by
    decide +kernel
  have settles := settles_twoMatches first
  have countable : twoMatches.Countable := by
    intro category side
    show 0 + twoMatches.session.queue.size < _
    decide +kernel
  have waits : ∃ c, twoMatches.Waits c ∧ c.category = "games" := ⟨_, ⟨0, first⟩, rfl⟩
  have writes : twoMatches.Written "games" ⟨["a.x.com"], []⟩ "x.com" :=
    ⟨_, ⟨⟨0, first⟩, rfl, List.not_mem_nil⟩, by decide +kernel⟩
  exact ⟨⟨rfl, rfl⟩, countable, waits, settles.recorded, settles.answered, writes,
    confirmation_classifies ⟨rfl, rfl⟩ countable waits settles.recorded settles.answered fun _ => 1⟩

end CategoryFilter.State
