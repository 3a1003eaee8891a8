/-
**When a refresh keeps what a confirmation recorded.**

A confirmation asks the source about the key of a candidate, which is its pattern or its origin, and makes
the pattern a hit. A refresh asks the same source about the members of the sets, so about the pattern in
any case:

* `exists_answer_of_report`: a refresh with a report has asked about all members that are still listed.
* `refresh_keeps_iff`: it keeps a listed hit exactly if the source does not refute the hit itself.
* `refresh_keeps_confirmed_iff`: so it keeps a confirmed pattern exactly if the source does not refute
  the pattern, and surely if the pattern was the candidate's key.
* `refresh_drops_confirmed`: a confirmed pattern that the next refresh removes.
-/

import CategoryFilter.Proofs.Confirm.Verdict
import CategoryFilter.Proofs.Examiner.RefreshEnding
import CategoryFilter.Proofs.Examiner.RefreshNotice
import CategoryFilter.Proofs.Reexamination

namespace CategoryFilter

theorem Confirmation.verdict_eq_refuted_iff {c : Confirmation} {key : String} :
    c.verdict key = .refuted ↔
      c.failed.contains key = false ∧ c.confirmed.contains key = false := by
  unfold verdict Verdict.ofBool
  cases c.failed.contains key <;> cases c.confirmed.contains key <;> simp

theorem Confirmation.verdict_eq_confirmed_iff {c : Confirmation} {key : String} :
    c.verdict key = .confirmed ↔
      c.failed.contains key = false ∧ c.confirmed.contains key = true := by
  unfold verdict Verdict.ofBool
  cases c.failed.contains key <;> cases c.confirmed.contains key <;> simp

namespace State

open Confirm (Answers)

variable {s : State} {around : Surroundings} {category name : String} {report : RefreshReport}
  {a : Answers}

/-! ### A refresh with a report -/

theorem refreshable_of_report (reported : (s.refresh around category).2 = .ok (some report)) :
    s.Refreshable around category :=
  refreshable_of_ne (by simp [reported])

/-- What the source says in a refresh about the members that are still listed. -/
def consultKept (s : State) (around : Surroundings) (category : String) : Except Failure Confirmation :=
  (Confirm.confirm around.services category (s.source category) (s.registry.style category)
    (((s.kept category).filter (Refresh.listed around.services category)).map (·.domain))).2

/-- **A refresh of members that ends with a report got an answer of the source**, and removes what is not
listed and what the answer contradicts. -/
theorem exists_answer_of_report (reported : (s.refresh around category).2 = .ok (some report)) :
    ∃ confirmation, s.consultKept around category = .ok confirmation ∧
      s.removed around category =
        (s.kept category).filter (!Refresh.listed around.services category ·) ++
          ((s.kept category).filter (Refresh.listed around.services category)).filter fun m =>
            !confirmation.failed.contains m.domain && Refresh.drifted confirmation m := by
  cases s.ending around category with
  | idle _ ends | unread _ _ ends | stopped _ _ ends | failed _ _ _ ends =>
    rw [ends] at reported
    cases reported
  | empty _ _ none _ =>
    refine ⟨.empty, ?_, ?_⟩
    · unfold consultKept
      rw [kept_of_no_members none]
      rfl
    · rw [removed_of_no_members none, kept_of_no_members none]
      rfl
  | answered _ through answer _ => exact ⟨_, answer, removed_answered through answer⟩

/-- **A refresh keeps a listed hit exactly if the source does not refute the hit itself.** -/
theorem refresh_keeps_iff (healthy : s.database.Healthy) (given : a.Given around.services)
    (reported : (s.refresh around category).2 = .ok (some report))
    (held : (s.database.pair category .hit).contains name = true)
    (free : (s.registry.exclusions category).covers name = false)
    (listed : Refresh.listed around.services category ⟨name, .hit⟩ = true) :
    ((s.refresh around category).1.database.pair category .hit).contains name = true ↔
      a.verdict category (s.source category) (s.registry.style category) name ≠ .refuted := by
  let hit : Member := ⟨name, .hit⟩
  have kept : hit ∈ s.kept category := by
    refine List.mem_append_left _ (List.mem_map.mpr ⟨name, List.mem_filter.mpr ⟨?_, ?_⟩, rfl⟩)
    · exact SortedSet.contains_iff.mp held
    · rw [free]
      rfl
  obtain ⟨confirmation, answered, gone⟩ := exists_answer_of_report reported
  have there : hit ∈ (s.kept category).filter (Refresh.listed around.services category) :=
    List.mem_filter.mpr ⟨kept, listed⟩
  have verdict := Confirm.verdict_confirm given answered (List.mem_map_of_mem there)
  have removed : hit ∈ s.removed around category ↔ confirmation.verdict name = .refuted := by
    rw [gone, List.mem_append, List.mem_filter, List.mem_filter, Confirmation.verdict_eq_refuted_iff]
    simp [there, listed, hit, Refresh.drifted]
  rw [pair_refresh healthy (refreshable_of_report reported), SetPair.contains_removeAll,
    contains_moved .hit free, held, Bool.true_and, Bool.not_eq_true', ← Bool.not_eq_true,
    List.contains_iff_mem, removed, verdict]

/-! ### After a confirmation -/

variable {services : Services} {clock : Clock} {confirmation : Confirmation} {p : Pending}

/-- The answers confirm the key of a candidate that is settled as a hit. -/
theorem Settles.verdict (settles : s.Settles services confirmation p) (given : a.Given services)
    (hit : (s.ruling clock p.1.category confirmation).isHit p.1 = true) :
    a.verdict p.1.category (s.source p.1.category) (s.registry.style p.1.category)
      ((s.source p.1.category).key p.1) = .confirmed := by
  have asked : (s.source p.1.category).key p.1 ∈ Text.sortNames
      ((s.candidates p.1.category).map fun q => (s.source p.1.category).key q.1) :=
    Text.mem_sortNames.mpr (List.mem_map_of_mem (f := fun q : Pending => (s.source _).key q.1)
      (mem_candidates settles.waiting))
  rw [← Confirm.verdict_confirm given settles.answered asked,
    Confirmation.verdict_eq_confirmed_iff]
  refine ⟨settles.settled, ?_⟩
  unfold Ruling.isHit at hit
  exact (Bool.and_eq_true_iff.mp hit).1

/-- **Confirmation and refresh agree on the pattern.** Right after a confirmation that made the pattern of a
candidate a hit, a refresh with the same answers that ends with a report keeps it, while the local
filter lists it, exactly if the source does not refute the pattern itself; and so it does if the source
was asked about the pattern before. -/
theorem refresh_keeps_confirmed_iff (healthy : s.database.Healthy)
    (settles : s.Settles services confirmation p)
    (hit : (s.ruling clock p.1.category confirmation).isHit p.1 = true)
    (before : a.Given services) (after : a.Given around.services)
    (held : ((s.confirmQueued services clock).1.database.pair p.1.category .hit).contains
      p.1.pattern = true)
    (reported : ((s.confirmQueued services clock).1.refresh around p.1.category).2 =
      .ok (some report))
    (listed : Refresh.listed around.services p.1.category ⟨p.1.pattern, .hit⟩ = true) :
    let last := ((s.confirmQueued services clock).1.refresh around p.1.category).1
    ((last.database.pair p.1.category .hit).contains p.1.pattern = true ↔
      a.verdict p.1.category (s.source p.1.category) (s.registry.style p.1.category) p.1.pattern ≠
        .refuted) ∧
    ((s.source p.1.category).key p.1 = p.1.pattern →
      (last.database.pair p.1.category .hit).contains p.1.pattern = true) := by
  intro last
  have reached := confirmQueued_reaches s services clock
  have free : ((s.confirmQueued services clock).1.registry.exclusions p.1.category).covers
      p.1.pattern = false := by
    rw [reached.registry]
    exact (covers_of_isHit hit).1
  have kept := refresh_keeps_iff (reached.trail.healthy healthy) after reported held free listed
  unfold source at kept
  rw [reached.registry] at kept
  refine ⟨kept, fun same => kept.mpr fun refuted => ?_⟩
  have confirmed := settles.verdict before hit
  rw [same] at confirmed
  cases confirmed.symm.trans refuted

/-! ### A pattern confirmed by its origin -/

/-- Surroundings in which the local filter finds every domain under one wildcard, and all list files are
the same. -/
def oneWildcard (list : String) : Surroundings where
  services := {
    checkFilter := fun _ => .ok ⟨[⟨"category:av", "*.malware.net", .hit⟩]⟩
    membership := fun _ _ => .ok ⟨some []⟩
    intel := fun _ _ _ => .ok ⟨[]⟩
    listFile := fun _ => .ok list.toUTF8 }
  clock _ := 1
  instant := 0
  stopped _ := false

/-- The answers of the sources there. -/
def oneWildcardAnswers (list : String) : Answers where
  holds _ _ := false
  intel _ _ _ := .ok ⟨[]⟩
  listFile _ := .ok list.toUTF8

theorem given_oneWildcard (list : String) : (oneWildcardAnswers list).Given (oneWildcard list).services :=
  ⟨fun _ _ => ⟨[], rfl, fun _ _ => rfl⟩, rfl, rfl⟩

/-- The match that waits below. -/
def wildcardMatch : Pending :=
  (⟨"av", "*.malware.net", "bad.malware.net"⟩, 0)

/-- A category with a list file, after a domain below the wildcard was detected. -/
def wildcardFound (list : String) : State :=
  (State.new { Config.standard with categories := [{ Definition.new "av" with strategy := .file }] }
    .new).perform (.detect (oneWildcard list) "bad.malware.net")

theorem sorted_wildcardFound (list : String) :
    (wildcardFound list).session.queue.pending.Pairwise fun p q => notAfter p q = true :=
  List.pairwise_singleton _ _

/-- A confirmation of the match has one group to settle. -/
theorem confirmed_wildcardFound (list : String) (services : Services) (clock : Clock) :
    ((wildcardFound list).confirmQueued services clock).1 =
      (confirmGroup services clock (wildcardFound list).drained ("av", [wildcardMatch])).1 := by
  rw [confirmQueued_fst, groupByCategory_of_sorted (sorted_wildcardFound list)]
  rfl

/-- The match is settled if the list file confirms its origin. -/
theorem settles_wildcardFound (list : String)
    (confirmed : (Confirm.confirm (oneWildcard list).services "av" .file .standard
      ["bad.malware.net"]).2 = .ok ⟨["bad.malware.net"], []⟩) :
    (wildcardFound list).Settles (oneWildcard list).services ⟨["bad.malware.net"], []⟩
      wildcardMatch := by
  have own : (wildcardFound list).candidates "av" = [wildcardMatch] := by
    unfold candidates
    rw [sortPending_of_sorted (sorted_wildcardFound list)]
    rfl
  refine ⟨List.mem_singleton.mpr rfl, rfl, ?_, rfl⟩
  show ((wildcardFound list).consult _ "av" ((wildcardFound list).candidates "av")).2 = _
  rw [own]
  exact confirmed

/-- If the list file holds the wildcard, the refresh keeps it. -/
theorem refresh_keeps_confirmed_iff_listed :
    let list := "*.malware.net\n"
    let s := wildcardFound list
    let around := oneWildcard list
    let t := (s.confirmQueued around.services around.clock).1
    let report : RefreshReport := ⟨"av", 1, 0, 0, 1, 0, 0, false⟩
    s.database.Healthy ∧
      s.Settles around.services ⟨["bad.malware.net"], []⟩ wildcardMatch ∧
      (s.ruling around.clock "av" ⟨["bad.malware.net"], []⟩).isHit wildcardMatch.1 = true ∧
      (oneWildcardAnswers list).Given around.services ∧
      (t.database.pair "av" .hit).contains "*.malware.net" = true ∧
      (t.refresh around "av").2 = .ok (some report) ∧
      Refresh.listed around.services "av" ⟨"*.malware.net", .hit⟩ = true ∧
      (((t.refresh around "av").1.database.pair "av" .hit).contains "*.malware.net" = true ↔
        (oneWildcardAnswers list).verdict "av" .file .standard "*.malware.net" ≠ .refuted) ∧
      ("bad.malware.net" = "*.malware.net" →
        ((t.refresh around "av").1.database.pair "av" .hit).contains "*.malware.net" = true) := by
  intro list s around t report
  have settled : t = _ := confirmed_wildcardFound list around.services around.clock
  have settles := settles_wildcardFound list (by decide +kernel)
  have hit : (s.ruling around.clock "av" ⟨["bad.malware.net"], []⟩).isHit wildcardMatch.1 = true := by
    decide +kernel
  have held : (t.database.pair "av" .hit).contains "*.malware.net" = true := by
    rw [settled]
    decide +kernel
  have reported : (t.refresh around "av").2 = .ok (some report) := by
    rw [settled]
    decide +kernel
  have listed : Refresh.listed around.services "av" ⟨"*.malware.net", .hit⟩ = true := by
    decide +kernel
  exact ⟨⟨rfl, rfl⟩, settles, hit, given_oneWildcard list, held, reported, listed,
    refresh_keeps_confirmed_iff (p := wildcardMatch) ⟨rfl, rfl⟩ settles hit (given_oneWildcard list)
      (given_oneWildcard list) held reported listed⟩

/-- **A confirmed pattern that the next refresh removes.** The list file holds the origin, which confirms
the match, and not the wildcard, which the refresh asks about; nothing else has changed. -/
theorem refresh_drops_confirmed :
    let list := "bad.malware.net\n"
    let s := wildcardFound list
    let around := oneWildcard list
    let t := (s.confirmQueued around.services around.clock).1
    s.Settles around.services ⟨["bad.malware.net"], []⟩ wildcardMatch ∧
      (s.ruling around.clock "av" ⟨["bad.malware.net"], []⟩).isHit wildcardMatch.1 = true ∧
      (oneWildcardAnswers list).Given around.services ∧
      (t.database.pair "av" .hit).contains "*.malware.net" = true ∧
      (t.refresh around "av").2 = .ok (some ⟨"av", 1, 0, 0, 1, 1, 0, true⟩) ∧
      (∀ m, Refresh.listed around.services "av" m = true) ∧
      ((t.refresh around "av").1.database.pair "av" .hit).contains "*.malware.net" = false := by
  intro list s around t
  have settled : t = _ := confirmed_wildcardFound list around.services around.clock
  have settles := settles_wildcardFound list (by decide +kernel)
  refine ⟨settles, by decide +kernel, given_oneWildcard list, ?_, ?_, fun m => ?_, ?_⟩
  · rw [settled]
    decide +kernel
  · rw [settled]
    decide +kernel
  · show stillListed (Category.filterUid "av") (.ok ⟨[⟨"category:av", "*.malware.net", .hit⟩]⟩) = true
    decide +kernel
  · rw [settled]
    decide +kernel

end State

end CategoryFilter
