/-
**When the nightly refresh runs.**

The clock of a zone `Strikes` an hour of a date at an instant, at several if it is put back and at none if it
is put forward past the hour:

* `earliest?_eq_some_iff`, `hourOn?_eq_some_iff`: the first instant that reads a local time, in every zone.
* `NextRun`, `nextNightly?_eq_some_iff`: the next run is the first instant of its date at which the hour
  strikes; on each date before it, from the current one on, the hour does not strike or did so first by now.
* `Plan.nodup_dates`: no date has two of the runs that are planned one after the other.
* `exists_nextRun`: where the offset never changes there is always a next run, within a day.
* `nightly_run`: all of this together.
-/

import CategoryFilter.Schedule.Nightly
import Mathlib.Order.Bounds.Basic

namespace CategoryFilter

/-- The first element of an ascending list that passes a test. -/
theorem find?_of_ascending {p : Int → Bool} {k : Int} {xs : List Int} (ascending : xs.Pairwise (· < ·)) :
    xs.find? p = some k ↔ k ∈ xs ∧ p k = true ∧ ∀ j ∈ xs, j < k → p j = false := by
  constructor
  · intro found
    obtain ⟨passes, before, after, rfl, refused⟩ := List.find?_eq_some_iff_append.mp found
    obtain ⟨-, later, -⟩ := List.pairwise_append.mp ascending
    refine ⟨List.mem_append_right _ List.mem_cons_self, passes, fun j listed less => ?_⟩
    rcases List.mem_append.mp listed with earlier | there
    · exact Bool.not_eq_true' _ ▸ refused j earlier
    · rcases List.mem_cons.mp there with rfl | there
      · exact absurd less (Int.lt_irrefl _)
      · exact absurd ((List.pairwise_cons.mp later).1 j there) (Int.not_lt.mpr (Int.le_of_lt less))
  · rintro ⟨listed, passes, refused⟩
    obtain ⟨before, after, rfl⟩ := List.append_of_mem listed
    refine List.find?_eq_some_iff_append.mpr ⟨passes, before, after, rfl, fun j earlier => ?_⟩
    have less := (List.pairwise_append.mp ascending).2.2 j earlier k List.mem_cons_self
    rw [refused j (List.mem_append_left _ earlier) less]
    rfl

namespace Zone

variable {z : Zone} {date second instant reading offset now t : Int} {hour : Nat}

/-! ### The instants of a local time -/

theorem offsetAt_mem (z : Zone) (second : Int) : z.offsetAt second ∈ z.offsets := by
  obtain ⟨base, transitions⟩ := z
  show transitions.foldl _ base ∈ base :: transitions.map Prod.snd
  induction transitions generalizing base with
  | nil => exact List.mem_cons_self
  | cons change rest ih =>
    rw [List.foldl_cons, List.map_cons]
    split
    · exact List.mem_cons_of_mem _ (ih change.2)
    · rcases List.mem_cons.mp (ih base) with same | later
      · rw [same]
        exact List.mem_cons_self
      · exact List.mem_cons_of_mem _ (List.mem_cons_of_mem _ later)

theorem mem_instants : second ∈ z.instants reading ↔ z.localTime second = reading := by
  rw [instants, List.mem_filter, decide_eq_true_iff, and_iff_right_of_imp]
  rintro rfl
  exact List.mem_map.mpr ⟨z.offsetAt second, z.offsetAt_mem second, Int.add_sub_cancel ..⟩

/-- **The first second that reads a local time** is found in every zone, if there is one. -/
theorem earliest?_eq_some_iff :
    z.earliest? reading = some second ↔ IsLeast { s | z.localTime s = reading } second := by
  rw [earliest?, List.min?_eq_some_iff]
  simp only [mem_instants]
  rfl

/-- The clock shows an hour of a date, on the hour. -/
def Strikes (z : Zone) (date : Int) (hour : Nat) (instant : Int) : Prop :=
  instant % 1000 = 0 ∧ z.localTime (instant / 1000) = date * 86400 + hour * 3600

theorem strikes_iff : z.Strikes date hour instant ↔
    ∃ second, second * 1000 = instant ∧ z.localTime second = date * 86400 + hour * 3600 := by
  constructor
  · rintro ⟨whole, reads⟩
    exact ⟨instant / 1000, by omega, reads⟩
  · rintro ⟨second, rfl, reads⟩
    refine ⟨by omega, ?_⟩
    rwa [Int.mul_ediv_cancel _ (by decide)]

/-- The hour of a date is where it strikes for the first time. -/
theorem hourOn?_eq_some_iff :
    z.hourOn? date hour = some instant ↔ IsLeast { i | z.Strikes date hour i } instant := by
  unfold hourOn?
  simp only [Option.map_eq_some_iff, earliest?_eq_some_iff, IsLeast, lowerBounds, Set.mem_ofPred_eq,
    strikes_iff]
  constructor
  · rintro ⟨second, ⟨reads, least⟩, rfl⟩
    refine ⟨⟨second, rfl, reads⟩, ?_⟩
    rintro _ ⟨other, rfl, again⟩
    have := least again
    omega
  · rintro ⟨⟨second, rfl, reads⟩, least⟩
    refine ⟨second, ⟨reads, fun other again => ?_⟩, rfl⟩
    have := least ⟨other, rfl, again⟩
    omega

/-- An hour of the day strikes on its own date. -/
theorem date_of_strikes (valid : hour < 24) (strikes : z.Strikes date hour instant) :
    z.date instant = date := by
  unfold Zone.date
  rw [strikes.2]
  omega

theorem hourOn?_of_none (none : z.hourOn? date hour = none) (instant : Int) :
    ¬ z.Strikes date hour instant := by
  intro strikes
  obtain ⟨second, -, reads⟩ := strikes_iff.mp strikes
  rw [hourOn?, Option.map_eq_none_iff, earliest?, List.min?_eq_none_iff] at none
  have listed := mem_instants.mpr reads
  rw [none] at listed
  cases listed

/-! ### The next run -/

/-- The first run after an instant: the hour strikes then for the first time on its date, one of three. On the
dates before it the hour does not strike, or it did so first by now. -/
structure NextRun (z : Zone) (hour : Nat) (now t : Int) : Prop where
  later : now < t
  strikes : z.Strikes (z.date t) hour t
  first : ∀ other, z.Strikes (z.date t) hour other → t ≤ other
  fromNow : z.date now ≤ z.date t
  soon : z.date t ≤ z.date now + 2
  passed : ∀ date, z.date now ≤ date → date < z.date t →
    (∀ instant, ¬ z.Strikes date hour instant) ∨
      ∃ instant, IsLeast { i | z.Strikes date hour i } instant ∧ instant ≤ now

/-- The dates are looked at in turn. -/
theorem nextNightly?_eq_some (valid : hour < 24) : nextNightly? z now hour = some t ↔
    ∃ k, (0 ≤ k ∧ k ≤ 2) ∧ z.hourOn? (z.date now + k) hour = some t ∧ now < t ∧
      ∀ j, 0 ≤ j → j < k → ∀ passed, z.hourOn? (z.date now + j) hour = some passed → passed ≤ now := by
  have listed : ∀ k : Int, k ∈ [0, 1, 2] ↔ 0 ≤ k ∧ k ≤ 2 := by
    intro k
    simp only [List.mem_cons, List.not_mem_nil, or_false]
    omega
  unfold nextNightly?
  rw [if_neg (by omega), List.find?_filterMap, Option.bind_eq_some_iff]
  refine exists_congr fun k => ?_
  rw [find?_of_ascending (by decide), listed]
  constructor
  · rintro ⟨⟨inside, due, refused⟩, found⟩
    rw [found] at due
    refine ⟨inside, found, of_decide_eq_true due, fun j low less passed there => ?_⟩
    have past := refused j ((listed j).mpr (by omega)) less
    rw [there] at past
    exact Int.not_lt.mp (of_decide_eq_false past)
  · rintro ⟨inside, found, later, passed⟩
    refine ⟨⟨inside, ?_, fun j there less => ?_⟩, found⟩
    · rw [found]
      exact decide_eq_true later
    · cases here : z.hourOn? (z.date now + j) hour with
      | none => rfl
      | some instant =>
        exact decide_eq_false (Int.not_lt.mpr (passed j ((listed j).mp there).1 less instant here))

/-- **The next run is the first one**, in every zone. -/
theorem nextNightly?_eq_some_iff (valid : hour < 24) :
    nextNightly? z now hour = some t ↔ z.NextRun hour now t := by
  rw [nextNightly?_eq_some valid]
  constructor
  · rintro ⟨k, inside, found, later, passed⟩
    obtain ⟨strikes, least⟩ := hourOn?_eq_some_iff.mp found
    have date : z.date t = z.date now + k := date_of_strikes valid strikes
    rw [← date] at strikes least
    refine ⟨later, strikes, fun other again => least again, by omega, by omega,
      fun date' fromNow before => ?_⟩
    cases here : z.hourOn? date' hour with
    | none => exact Or.inl (hourOn?_of_none here)
    | some instant =>
      have turn : z.date now + (date' - z.date now) = date' := by omega
      exact Or.inr ⟨instant, hourOn?_eq_some_iff.mp here,
        passed (date' - z.date now) (by omega) (by omega) instant (turn.symm ▸ here)⟩
  · intro run
    have date : z.date now + (z.date t - z.date now) = z.date t := by omega
    have low := run.fromNow
    have high := run.soon
    refine ⟨z.date t - z.date now, by omega, ?_, run.later, fun j fromNow before instant here => ?_⟩
    · rw [date]
      exact hourOn?_eq_some_iff.mpr ⟨run.strikes, fun other again => run.first other again⟩
    · have least := hourOn?_eq_some_iff.mp here
      rcases run.passed (z.date now + j) (by omega) (by omega) with never | ⟨first, isFirst, past⟩
      · exact absurd least.1 (never instant)
      · rwa [least.unique isFirst]

/-! ### Runs one after the other -/

/-- A later run is not on the date of an earlier one. -/
theorem NextRun.date_ne {again r : Int} (run : z.NextRun hour now t) (after : t ≤ again)
    (next : z.NextRun hour again r) : z.date r ≠ z.date t := by
  intro same
  have back : r ≤ t := next.first t (same ▸ run.strikes)
  have := next.later
  omega

/-- Runs that are planned one after the other, the latest first: each from an instant that is no earlier than
the run before it. -/
inductive Plan (z : Zone) (hour : Nat) : List Int → Prop where
  | none : z.Plan hour []
  | next {runs : List Int} {now t : Int} : z.Plan hour runs → (∀ last ∈ runs.head?, last ≤ now) →
      nextNightly? z now hour = some t → z.Plan hour (t :: runs)

namespace Plan

variable {runs : List Int}

theorem nextRun (valid : hour < 24) (plan : z.Plan hour runs) (listed : t ∈ runs) :
    ∃ now, z.NextRun hour now t := by
  induction plan with
  | none => cases listed
  | @next earlier now last _ _ found ih =>
    rcases List.mem_cons.mp listed with rfl | listed
    · exact ⟨now, (nextNightly?_eq_some_iff valid).mp found⟩
    · exact ih listed

/-- No run is after the latest one. -/
theorem le_latest (valid : hour < 24) (plan : z.Plan hour runs) {last : Int} (latest : last ∈ runs.head?)
    (listed : t ∈ runs) : t ≤ last := by
  induction plan generalizing last with
  | none => cases listed
  | @next earlier now next _ after found ih =>
    cases latest
    have later := ((nextNightly?_eq_some_iff valid).mp found).later
    rcases List.mem_cons.mp listed with rfl | listed
    · exact Int.le_refl _
    · obtain ⟨before, rest, rfl⟩ := List.exists_cons_of_ne_nil (List.ne_nil_of_mem listed)
      have := ih rfl listed
      have := after before rfl
      omega

/-- **No date has two runs**, also if the hour strikes twice on it. -/
theorem nodup_dates (valid : hour < 24) (plan : z.Plan hour runs) : (runs.map z.date).Nodup := by
  induction plan with
  | none => exact List.nodup_nil
  | @next earlier now next planned after found ih =>
    refine List.nodup_cons.mpr ⟨fun again => ?_, ih⟩
    obtain ⟨t, listed, same⟩ := List.mem_map.mp again
    obtain ⟨before, run⟩ := planned.nextRun valid listed
    obtain ⟨latest, rest, rfl⟩ := List.exists_cons_of_ne_nil (List.ne_nil_of_mem listed)
    have reached : t ≤ now := Int.le_trans (planned.le_latest valid rfl listed) (after latest rfl)
    exact run.date_ne reached ((nextNightly?_eq_some_iff valid).mp found) same.symm

end Plan

/-! ### A clock that is never changed -/

/-- The offset of a zone never changes. -/
def Constant (z : Zone) (offset : Int) : Prop :=
  ∀ second, z.offsetAt second = offset

theorem Constant.strikes_iff (constant : z.Constant offset) : z.Strikes date hour instant ↔
    instant = (date * 86400 + hour * 3600 - offset) * 1000 := by
  unfold Strikes localTime
  rw [constant]
  omega

theorem Constant.date_eq (constant : z.Constant offset) (instant : Int) :
    z.date instant = (instant / 1000 + offset) / 86400 := by
  rw [Zone.date, localTime, constant]

/-- The first instant after now at which the hour strikes. -/
def FirstAfter (z : Zone) (hour : Nat) (now t : Int) : Prop :=
  IsLeast { i | now < i ∧ ∃ date, z.Strikes date hour i } t

section Constant

variable (constant : z.Constant offset) (strikes : z.Strikes date hour t) (later : now < t)
  (within : t ≤ now + 86400000)

include constant strikes later within

/-- The hour strikes every 24 hours, so that it struck last by now. -/
theorem le_now_of_strikes {other : Int} (before : other < date) (again : z.Strikes other hour instant) :
    instant ≤ now := by
  rw [constant.strikes_iff] at strikes again
  omega

theorem firstAfter_of_constant : z.FirstAfter hour now t := by
  refine ⟨⟨later, date, strikes⟩, fun instant ⟨after, other, again⟩ => ?_⟩
  by_cases before : other < date
  · have := le_now_of_strikes constant strikes later within before again
    omega
  · rw [constant.strikes_iff] at strikes again
    omega

theorem nextRun_of_constant (valid : hour < 24) : z.NextRun hour now t := by
  have own := date_of_strikes valid strikes
  have today := constant.date_eq now
  have reads := constant.strikes_iff.mp strikes
  refine ⟨later, own ▸ strikes, fun other again => ?_, by omega, by omega, fun other _ before => ?_⟩
  · rw [constant.strikes_iff] at again
    omega
  · have again : z.Strikes other hour ((other * 86400 + hour * 3600 - offset) * 1000) :=
      constant.strikes_iff.mpr rfl
    refine Or.inr ⟨_, ⟨again, fun instant there => ?_⟩,
      le_now_of_strikes constant strikes later within (own ▸ before) again⟩
    exact Int.le_of_eq (constant.strikes_iff.mp there).symm

end Constant

/-- **Where the offset never changes there is a next run**: the first time that the hour strikes, within a
day. -/
theorem exists_nextRun (valid : hour < 24) (constant : z.Constant offset) (now : Int) :
    ∃ t, z.NextRun hour now t ∧ z.FirstAfter hour now t ∧ t ≤ now + 86400000 := by
  let date := (now / 1000 + offset - hour * 3600) / 86400 + 1
  let t := (date * 86400 + hour * 3600 - offset) * 1000
  have strikes : z.Strikes date hour t := constant.strikes_iff.mpr rfl
  have later : now < t := by omega
  have within : t ≤ now + 86400000 := by omega
  exact ⟨t, nextRun_of_constant constant strikes later within valid,
    firstAfter_of_constant constant strikes later within, within⟩

/-! ### Every run -/

/-- **The nightly run comes when the hour strikes next**: it is the first run after now, no date has two of
the runs that are planned one after the other, and where the offset never changes it is the first time
after now that the hour strikes, within a day. -/
theorem nightly_run (z : Zone) (valid : hour < 24) :
    (∀ now t, nextNightly? z now hour = some t ↔ z.NextRun hour now t) ∧
      (∀ now t again r, nextNightly? z now hour = some t → t ≤ again →
        nextNightly? z again hour = some r → z.date r ≠ z.date t) ∧
      (∀ runs, z.Plan hour runs → (runs.map z.date).Nodup) ∧
      ∀ offset, z.Constant offset → ∀ now,
        ∃ t, nextNightly? z now hour = some t ∧ z.FirstAfter hour now t ∧ t ≤ now + 86400000 := by
  refine ⟨fun now t => nextNightly?_eq_some_iff valid, fun now t again r found after next => ?_,
    fun runs plan => plan.nodup_dates valid, fun offset constant now => ?_⟩
  · rw [nextNightly?_eq_some_iff valid] at found next
    exact found.date_ne after next
  · obtain ⟨t, run, first, within⟩ := exists_nextRun valid constant now
    exact ⟨t, (nextNightly?_eq_some_iff valid).mpr run, first, within⟩

/-- One hour east, two in summer: the clock skips an hour on the date 19813 and goes through one twice on the
date 20023. -/
def summerTime : Zone := ⟨3600, [(1711846800, 7200), (1729990800, 3600)]⟩

/-- Eight hours east. -/
def eastern : Zone := ⟨28800, []⟩

/-- The date on which the hour is skipped has no run, and the one on which it comes twice has one. -/
theorem nightly_run_summerTime :
    2 < 24 ∧ summerTime.date 1711843200000 = 19813 ∧
      summerTime.NextRun 2 1711843200000 1711929600000 ∧ summerTime.date 1711929600000 = 19814 ∧
      summerTime.NextRun 2 1729980000000 1729987200000 ∧ summerTime.date 1729987200000 = 20023 ∧
      summerTime.Strikes 20023 2 1729990800000 ∧ summerTime.NextRun 2 1729987200000 1730077200000 ∧
      (∀ runs, summerTime.Plan 2 runs → (runs.map summerTime.date).Nodup) ∧
      eastern.Constant 28800 ∧ eastern.FirstAfter 2 1735657200000 1735668000000 := by
  have valid : 2 < 24 := by decide
  obtain ⟨next, -, dates, -⟩ := nightly_run summerTime valid
  obtain ⟨-, -, -, found⟩ := nightly_run eastern valid
  have constant : eastern.Constant 28800 := fun _ => rfl
  obtain ⟨t, planned, first, -⟩ := found 28800 constant 1735657200000
  have eastward : nextNightly? eastern 1735657200000 2 = some 1735668000000 := by decide
  rw [eastward] at planned
  cases planned
  exact ⟨valid, by decide, (next _ _).mp (by decide), by decide, (next _ _).mp (by decide), by decide,
    ⟨by decide, by decide⟩, (next _ _).mp (by decide), dates, constant, first⟩

end Zone

end CategoryFilter
