/-
**When a settled match becomes a candidate again.**

A confirmation settles its candidates in order, and each records one name: its pattern as a hit or its
origin as a passthrough. A name is a hit or a passthrough and never both, so a later candidate of the
category may take it away again.

* `reexamine_settled`: examining a settled match again queues nothing, unless a later candidate recorded
  its name in the other set and what is left knows neither its pattern nor its origin.
* `reexamine_overwritten`: a match to which this happens.
-/

import CategoryFilter.Proofs.Examiner.Confirmation
import CategoryFilter.Proofs.Examiner.Detection
import CategoryFilter.Store.Schema

namespace CategoryFilter.State

variable {s u : State} {services : Services} {clock : Clock} {confirmation : Confirmation}
  {p q : Pending} {category : String}

/-- The waiting candidates of a category, in the order in which they are settled. -/
def candidates (s : State) (category : String) : List Pending :=
  ofCategory (sortPending s.session.queue.pending) category

/-- A confirmation of the queue settles a candidate: its category keeps sets, the source answers, and not
with a failure on the candidate's key. -/
structure Settles (s : State) (services : Services) (confirmation : Confirmation) (p : Pending) :
    Prop where
  waiting : p ∈ s.session.queue.pending
  recorded : (s.registry.strategy p.1.category).updateConfirmSet = true
  answered : (s.consult services p.1.category (s.candidates p.1.category)).2 = .ok confirmation
  settled : confirmation.failed.contains ((s.source p.1.category).key p.1) = false

/-- A later candidate records the name of an earlier one in the other set. -/
def Overwrites (ruling : Ruling) (p q : Pending) : Prop :=
  p.1.before q.1 = true ∧
    ∃ m, ruling.recording? p.1 = some m ∧ ruling.recording? q.1 = some ⟨m.domain, m.side.opposite⟩

theorem mem_candidates (waiting : p ∈ s.session.queue.pending) : p ∈ s.candidates p.1.category :=
  List.mem_filter.mpr ⟨mem_sortPending.mpr waiting, decide_eq_true rfl⟩

theorem ordered_candidates (s : State) (category : String) : Ordered (s.candidates category) :=
  (ordered_sortPending _).filter _

theorem Turn.ruling_eq (turn : Turn s u category) :
    u.ruling clock category confirmation = s.ruling clock category confirmation :=
  State.ruling_eq turn.registry clock category confirmation

theorem Turn.consult_eq (turn : Turn s u category) (items : List Pending) :
    u.consult services category items = s.consult services category items :=
  State.consult_eq turn.registry services category items

theorem Turn.recorded_eq (turn : Turn s u category) (items : List Pending) :
    u.recorded clock category confirmation items = s.recorded clock category confirmation items := by
  unfold recorded
  rw [turn.pair, turn.ruling_eq]

/-- The sets of a category after a confirmation that cuts nothing off. -/
theorem pair_confirmQueued_fits (healthy : s.database.Healthy)
    (settles : s.Settles services confirmation p)
    (fits : ∀ side, (s.recorded clock p.1.category confirmation (s.candidates p.1.category) side).size ≤
      s.config.maxSetSize.toNat) :
    (s.confirmQueued services clock).1.database.pair p.1.category =
      s.recorded clock p.1.category confirmation (s.candidates p.1.category) := by
  obtain ⟨u, turn, after⟩ := exists_turn settles.waiting rfl services clock
  rw [after, ← turn.recorded_eq]
  refine pair_confirmCategory_fits (turn.healthy healthy) ?_ ?_ clock ?_
  · rw [turn.registry]
    exact settles.recorded
  · rw [turn.consult_eq]
    exact settles.answered
  · rw [turn.recorded_eq, turn.config]
    exact fits

/-- A settled candidate records a name. -/
theorem Settles.entry (settles : s.Settles services confirmation p) (clock : Clock) :
    ∃ m, (s.ruling clock p.1.category confirmation).recording? p.1 = some m ∧
      (m = ⟨p.1.pattern, .hit⟩ ∨ m = ⟨p.1.origin, .passthrough⟩) := by
  have answered : ¬ (s.ruling clock p.1.category confirmation).confirmation.failed.contains
      ((s.ruling clock p.1.category confirmation).source.key p.1) = true :=
    Bool.eq_false_iff.mp settles.settled
  unfold Ruling.recording?
  rw [if_neg answered]
  split
  · exact ⟨_, rfl, Or.inl rfl⟩
  · exact ⟨_, rfl, Or.inr rfl⟩

/-- A settled candidate that the sets do not know afterwards was overwritten by a later one. -/
theorem Settles.exists_overwriting (healthy : s.database.Healthy)
    (settles : s.Settles services confirmation p)
    (fits : ∀ side, (s.recorded clock p.1.category confirmation (s.candidates p.1.category) side).size ≤
      s.config.maxSetSize.toNat)
    (noHit : ((s.confirmQueued services clock).1.database.pair p.1.category .hit).contains
      p.1.pattern = false)
    (noPassthrough : ((s.confirmQueued services clock).1.database.pair p.1.category
      .passthrough).contains p.1.origin = false) :
    ∃ q ∈ s.candidates p.1.category,
      Overwrites (s.ruling clock p.1.category confirmation) p q := by
  let ruling := s.ruling clock p.1.category confirmation
  rw [pair_confirmQueued_fits healthy settles fits] at noHit noPassthrough
  obtain ⟨m, entry, made⟩ := settles.entry clock
  -- Had no later entry the same name, the name would be where this one put it.
  have gone : SetPair.lastSide? m.domain (ruling.entries (s.candidates p.1.category)) ≠
      some m.side := by
    intro last
    have held : (s.recorded clock p.1.category confirmation (s.candidates p.1.category)
        m.side).contains m.domain = true := by
      unfold State.recorded
      rw [SetPair.contains_recordAll, last]
      exact decide_eq_true rfl
    rcases made with rfl | rfl
    · rw [noHit] at held
      cases held
    · rw [noPassthrough] at held
      cases held
  obtain ⟨q, listed, later, across⟩ := SetPair.exists_later
    (ordered_candidates s p.1.category) (mem_candidates settles.waiting) entry gone
  have different : p.1 ≠ q.1 := by
    intro same
    rw [← same, entry] at across
    have sides := congrArg (Option.map Member.side) across
    exact m.side.opposite_ne (Option.some.inj sides).symm
  exact ⟨q, listed, (Candidate.before_or_before different).resolve_right later, m, entry, across⟩

/-- **No flapping, except for names taken away.** Right after a confirmation that settled a candidate and
cut nothing off, examining the match again queues nothing, unless a later candidate of the category
recorded its name in the other set, nothing of the match is excluded, its pattern is no hit and its
origin no passthrough. -/
theorem reexamine_settled (healthy : s.database.Healthy) (settles : s.Settles services confirmation p)
    (fits : ∀ side, (s.recorded clock p.1.category confirmation (s.candidates p.1.category) side).size ≤
      s.config.maxSetSize.toNat) (score : Score) :
    let t := (s.confirmQueued services clock).1
    ((t.examineMatch score p.1.category p.1.pattern p.1.origin).2 = false ∧
      (t.examineMatch score p.1.category p.1.pattern p.1.origin).1.session.queue = t.session.queue) ∨
    ((∃ q ∈ s.candidates p.1.category,
        Overwrites (s.ruling clock p.1.category confirmation) p q) ∧
      (s.registry.exclusions p.1.category).coversAny [p.1.origin, p.1.pattern] = false ∧
      (t.database.pair p.1.category .hit).contains p.1.pattern = false ∧
      (t.database.pair p.1.category .passthrough).contains p.1.origin = false) := by
  intro t
  have reached := confirmQueued_reaches s services clock
  have sound : t.database.Healthy := reached.trail.healthy healthy
  have same : t.registry = s.registry := reached.registry
  by_cases known : (s.registry.exclusions p.1.category).coversAny [p.1.origin, p.1.pattern] = true ∨
      (t.database.pair p.1.category .hit).contains p.1.pattern = true ∨
      (t.database.pair p.1.category .passthrough).contains p.1.origin = true
  · rw [← same] at known
    exact Or.inl (examineMatch_known sound known score)
  · rw [not_or, not_or, Bool.not_eq_true, Bool.not_eq_true, Bool.not_eq_true] at known
    exact Or.inr ⟨settles.exists_overwriting healthy fits known.2.1 known.2.2, known⟩

/-! ### A name taken away -/

/-- Services that answer with a list file of one name only. -/
def oneName : Services where
  checkFilter _ := .error .http
  membership _ _ := .error .http
  intel _ _ _ := .error .http
  listFile _ := .ok "a.x.com\n".toUTF8

/-- Two matches of a category with a list file: `x.com` is the pattern of both and the origin of one. -/
def twoMatches : State :=
  let s := State.new { Config.standard with
    categories := [{ Definition.new "games" with strategy := .file }] } .new
  s.withQueue { s.session.queue with
    pending := [(⟨"games", "x.com", "a.x.com"⟩, 0), (⟨"games", "x.com", "x.com"⟩, 0)] }

theorem sorted_twoMatches :
    twoMatches.session.queue.pending.Pairwise fun p q => notAfter p q = true := by
  decide +kernel

theorem candidates_twoMatches :
    twoMatches.candidates "games" = twoMatches.session.queue.pending := by
  unfold candidates
  rw [sortPending_of_sorted sorted_twoMatches]
  decide +kernel

/-- Both matches are settled by the list file, which holds the origin of the first. -/
theorem settles_twoMatches {p : Pending} (waiting : p ∈ twoMatches.session.queue.pending) :
    twoMatches.Settles oneName ⟨["a.x.com"], []⟩ p := by
  have own : p.1.category = "games" := by
    have all : ∀ q ∈ twoMatches.session.queue.pending, q.1.category = "games" := by decide +kernel
    exact all p waiting
  refine ⟨waiting, ?_, ?_, rfl⟩
  · rw [own]
    decide +kernel
  · rw [own, candidates_twoMatches]
    decide +kernel

theorem fits_twoMatches (side : Side) :
    (twoMatches.recorded (fun _ => 1) "games" ⟨["a.x.com"], []⟩ (twoMatches.candidates "games")
      side).size ≤ twoMatches.config.maxSetSize.toNat := by
  rw [candidates_twoMatches]
  cases side <;> decide +kernel

/-- The second of the two matches is settled for good. -/
theorem reexamine_settled_twoMatches :
    twoMatches.database.Healthy ∧
      twoMatches.Settles oneName ⟨["a.x.com"], []⟩ (⟨"games", "x.com", "x.com"⟩, 0) ∧
      (∀ side, (twoMatches.recorded (fun _ => 1) "games" ⟨["a.x.com"], []⟩
        (twoMatches.candidates "games") side).size ≤ twoMatches.config.maxSetSize.toNat) ∧
      ∀ score, let t := (twoMatches.confirmQueued oneName fun _ => 1).1
        ((t.examineMatch score "games" "x.com" "x.com").2 = false ∧
          (t.examineMatch score "games" "x.com" "x.com").1.session.queue = t.session.queue) ∨
        ((∃ q ∈ twoMatches.candidates "games",
            Overwrites (twoMatches.ruling (fun _ => 1) "games" ⟨["a.x.com"], []⟩)
              (⟨"games", "x.com", "x.com"⟩, 0) q) ∧
          (twoMatches.registry.exclusions "games").coversAny ["x.com", "x.com"] = false ∧
          (t.database.pair "games" .hit).contains "x.com" = false ∧
          (t.database.pair "games" .passthrough).contains "x.com" = false) := by
  have waiting : ((⟨"games", "x.com", "x.com"⟩, 0) : Pending) ∈ twoMatches.session.queue.pending := by
    decide +kernel
  exact ⟨⟨rfl, rfl⟩, settles_twoMatches waiting, fits_twoMatches, fun score =>
    reexamine_settled ⟨rfl, rfl⟩ (settles_twoMatches waiting) fits_twoMatches score⟩

/-- The first of the two matches is settled too, but the second takes its pattern away, so that
examining it again makes it a candidate. -/
theorem reexamine_overwritten :
    twoMatches.database.Healthy ∧
      twoMatches.Settles oneName ⟨["a.x.com"], []⟩ (⟨"games", "x.com", "a.x.com"⟩, 0) ∧
      (∀ side, (twoMatches.recorded (fun _ => 1) "games" ⟨["a.x.com"], []⟩
        (twoMatches.candidates "games") side).size ≤ twoMatches.config.maxSetSize.toNat) ∧
      ((twoMatches.confirmQueued oneName fun _ => 1).1.examineMatch 2 "games" "x.com" "a.x.com").2 =
        true := by
  have waiting : ((⟨"games", "x.com", "a.x.com"⟩, 0) : Pending) ∈
      twoMatches.session.queue.pending := by
    decide +kernel
  refine ⟨⟨rfl, rfl⟩, settles_twoMatches waiting, fits_twoMatches, ?_⟩
  -- The sort is by well-founded recursion, so the groups are taken from the batch, which is in order.
  rw [confirmQueued_fst, groupByCategory_of_sorted sorted_twoMatches]
  decide +kernel

end CategoryFilter.State
