/-
**A task that detects a domain detects it as the examiner does.**

Such a task admits the domain, asks the local filter, and takes its answer at once or after a wait. The two
parts are those of `State.detect`, in the session of the task:

* `inSession_detect`: one part after the other.
* `runFirst_detect`: the task at its turn, if the local filter answers at once.
* `runFirst_asks`, `runFirst_answered`: otherwise the task asks and waits, and what it does with the answer is
  the rest of the detection.
* `perform_detect`, `perform_detect_alone`: a detection that is performed, before all tasks that are ready,
  and, where there are none, after a wait of any length.
* `examines`: these together.
-/

import CategoryFilter.Proofs.Service.Course

namespace CategoryFilter.Executor

variable {ex mid other : Executor} {t : Task} {session : Nat} {rest : List Nat} {origin : String}

/-! ### Sessions -/

section Sessions

variable {α β : Type}

/-- The examiner in a session. -/
def stateIn (ex : Executor) (session : Nat) : State :=
  { ex.state with session := ex.sessionAt session }

theorem inSession_current (current : session = ex.current) (part : State → State × α) :
    ex.inSession session part = ({ ex with state := (part ex.state).1 }, (part ex.state).2) :=
  if_pos current

/-- The earlier sessions after one of them has gone on. -/
def retiredWith (ex : Executor) (session : Nat) (own : Session) : List (Nat × Session) :=
  ex.retired.map fun r => if r.1 = session then (r.1, own) else r

theorem inSession_earlier (earlier : session ≠ ex.current) (part : State → State × α) :
    ex.inSession session part =
      ({ ex with
          state := { (part (ex.stateIn session)).1 with session := ex.state.session }
          retired := ex.retiredWith session (part (ex.stateIn session)).1.session },
        (part (ex.stateIn session)).2) :=
  if_neg earlier

theorem stateIn_current (current : session = ex.current) : ex.stateIn session = ex.state := by
  unfold stateIn sessionAt
  rw [if_pos current]

/-- What a part of an operation answers in a session. -/
theorem snd_inSession (ex : Executor) (session : Nat) (part : State → State × α) :
    (ex.inSession session part).2 = (part (ex.stateIn session)).2 := by
  by_cases current : session = ex.current
  · rw [inSession_current current, stateIn_current current]
  · rw [inSession_earlier current]

theorem inSession_congr {first second : State → State × α}
    (same : first (ex.stateIn session) = second (ex.stateIn session)) :
    ex.inSession session first = ex.inSession session second := by
  by_cases current : session = ex.current
  · rw [stateIn_current current] at same
    rw [inSession_current current, inSession_current current, same]
  · rw [inSession_earlier current, inSession_earlier current, same]

/-- A part of an operation concerns the examiner and the earlier sessions. -/
theorem exists_inSession (ex : Executor) (session : Nat) (part : State → State × α) :
    ∃ state retired, (ex.inSession session part).1 = { ex with state, retired } := by
  by_cases current : session = ex.current
  · exact ⟨_, _, congrArg Prod.fst (inSession_current current part)⟩
  · exact ⟨_, _, congrArg Prod.fst (inSession_earlier current part)⟩

/-- A part of an operation depends on the examiner and the sessions only. -/
theorem inSession_transport (ex other : Executor) (state : other.state = ex.state)
    (retired : other.retired = ex.retired) (current : other.current = ex.current) (session : Nat)
    (part : State → State × α) :
    other.inSession session part =
      ({ other with
          state := (ex.inSession session part).1.state
          retired := (ex.inSession session part).1.retired },
        (ex.inSession session part).2) := by
  obtain ⟨now, zone, s, number, others, services, filterDelay, tasks, ready, results, locks, permits,
    channels, fresh, random⟩ := other
  obtain rfl : s = _ := state
  obtain rfl : others = _ := retired
  obtain rfl : number = _ := current
  unfold inSession sessionAt
  split <;> rfl

/-- Two parts of an operation, one after the other, with a change between them that is none of a session. -/
theorem inSession_inSession (hosts : ex.Hosts session) (first : State → State × α)
    (second : State → State × β) (between : State → State)
    (apart : ∀ (s : State) own, between { s with session := own } = { between s with session := own }) :
    ({ (ex.inSession session first).1 with
        state := between (ex.inSession session first).1.state } : Executor).inSession session second =
      ex.inSession session fun s => second (between (first s).1) := by
  by_cases current : session = ex.current
  · rw [inSession_current current, inSession_current current, inSession_current (by exact current)]
  · have known : (ex.retired.lookup session).isSome := by
      rw [Option.isSome_iff_ne_none, Ne, lookup_eq_none_iff, not_not]
      exact hosts.resolve_left current
    rw [inSession_earlier current, inSession_earlier current]
    dsimp only
    generalize (first (ex.stateIn session)).1 = s
    rw [inSession_earlier (by exact current)]
    have own : ({ ex with
        state := between { s with session := ex.state.session }
        retired := ex.retiredWith session s.session } : Executor).stateIn session = between s := by
      unfold stateIn sessionAt retiredWith
      rw [if_neg (by exact current), lookup_map_value known, Option.getD_some]
      dsimp only
      rw [apart, ← apart]
    rw [own, apart]
    congr 2
    unfold retiredWith
    rw [List.map_map]
    refine List.map_congr_left fun r _ => ?_
    by_cases own : r.1 = session
    · rw [Function.comp_apply, if_pos own, if_pos (by exact own), if_pos own]
    · rw [Function.comp_apply, if_neg own, if_neg own]

end Sessions

/-! ### The two parts of a detection -/

/-- The service after a question to the local filter about a domain. -/
def asked (ex : Executor) (origin : String) : Executor :=
  { ex with state := ex.state.ask [.filter (State.detectionRequest origin)] }

theorem detect_of_admits {s : State} {around : Surroundings}
    (admitted : (s.admits origin around.instant).2 = true) :
    s.detect around origin =
      (((s.admits origin around.instant).1.ask [.filter (State.detectionRequest origin)]).receiveFilter
        around.clock origin (around.services.checkFilter (State.detectionRequest origin))) := by
  unfold State.detect
  rcases answer : s.admits origin around.instant with ⟨entered, taken⟩
  rw [answer] at admitted
  obtain rfl : taken = true := admitted
  rfl

theorem detect_of_not_admits {s : State} {around : Surroundings}
    (refused : (s.admits origin around.instant).2 = false) :
    s.detect around origin = ((s.admits origin around.instant).1, 0) := by
  unfold State.detect
  rcases answer : s.admits origin around.instant with ⟨entered, taken⟩
  rw [answer] at refused
  obtain rfl : taken = false := refused
  rfl

/-- **What is admitted and then answered is detected.** -/
theorem inSession_detect (hosts : ex.Hosts session) (around : Surroundings)
    (admitted : (ex.inSession session (·.admits origin around.instant)).2 = true) :
    (asked (ex.inSession session (·.admits origin around.instant)).1 origin).inSession session
        (·.receiveFilter around.clock origin
          (around.services.checkFilter (State.detectionRequest origin))) =
      ex.inSession session (·.detect around origin) := by
  rw [snd_inSession] at admitted
  refine (inSession_inSession hosts _ _ (·.ask [.filter (State.detectionRequest origin)])
    fun _ _ => rfl).trans ?_
  exact inSession_congr (detect_of_admits admitted).symm

theorem inSession_detect_of_refused (around : Surroundings)
    (refused : (ex.inSession session (·.admits origin around.instant)).2 = false) :
    ex.inSession session (·.detect around origin) =
      ((ex.inSession session (·.admits origin around.instant)).1, 0) := by
  have alone : ex.inSession session (·.detect around origin) =
      ex.inSession session fun s => ((s.admits origin around.instant).1, 0) := by
    rw [snd_inSession] at refused
    exact inSession_congr (detect_of_not_admits refused)
  rw [alone]
  unfold inSession
  split <;> rfl

/-! ### The task -/

/-- Detect a domain from beginning to end in the session of a task, and end the task. -/
def detectAs (ex : Executor) (t : Task) (around : Surroundings) (origin : String) : Executor :=
  (ex.inSession t.session (·.detect around origin)).1.finish t
    (.detected (ex.inSession t.session (·.detect around origin)).2)

/-- The service whose first task has its turn, with those that come after. -/
def turned (ex : Executor) (rest : List Nat) : Executor := { ex with ready := rest }

theorem runFirst_eq (first : ex.ready = t.id :: rest) (found : ex.task? t.id = some t) :
    ex.runFirst = runTask stepBound (ex.turned rest) t := by
  have there : ({ ex with ready := rest } : Executor).task? t.id = some t := found
  unfold runFirst
  rw [first]
  dsimp only
  rw [there]
  rfl

theorem step_detect (stage : t.stage = .detect origin) :
    ex.step t =
      if (ex.inSession t.session (·.admits origin ex.now)).2 then
        (asked (ex.inSession t.session (·.admits origin ex.now)).1 origin, t,
          if ex.filterDelay = 0 then .go (.filtered origin)
          else .wait (.filtered origin) (.time (ex.now + ex.filterDelay) false))
      else ((ex.inSession t.session (·.admits origin ex.now)).1, t, .done (.detected 0)) := by
  obtain ⟨state, retired, same⟩ := exists_inSession ex t.session (·.admits origin ex.now)
  unfold step
  rw [stage]
  dsimp only
  rcases answer : ex.inSession t.session (·.admits origin ex.now) with ⟨entered, taken⟩
  rw [answer] at same
  obtain rfl : entered = _ := same
  cases taken <;> rfl

theorem step_filtered (stage : t.stage = .filtered origin) :
    ex.step t =
      ((ex.inSession t.session (·.receiveFilter ex.clock origin
          (ex.services.checkFilter (State.detectionRequest origin)))).1, t,
        .done (.detected (ex.inSession t.session (·.receiveFilter ex.clock origin
          (ex.services.checkFilter (State.detectionRequest origin)))).2)) := by
  unfold step
  rw [stage]

/-- Time stands still and the services stay the same. -/
theorem surroundings_admitted (ex : Executor) (session : Nat) (origin : String) :
    (asked (ex.inSession session (·.admits origin ex.now)).1 origin).clock = ex.clock ∧
      (asked (ex.inSession session (·.admits origin ex.now)).1 origin).services = ex.services := by
  obtain ⟨state, retired, same⟩ := exists_inSession ex session (·.admits origin ex.now)
  rw [same]
  exact ⟨rfl, rfl⟩

theorem runTask_filtered (fuel : Nat) (stage : t.stage = .filtered origin) :
    runTask (fuel + 1) ex t =
      (ex.inSession t.session (·.receiveFilter ex.clock origin
        (ex.services.checkFilter (State.detectionRequest origin)))).1.finish t
        (.detected (ex.inSession t.session (·.receiveFilter ex.clock origin
          (ex.services.checkFilter (State.detectionRequest origin)))).2) := by
  rw [runTask, step_filtered stage]

/-- **The run of a task that detects a domain**, if the local filter answers at once. -/
theorem runTask_detect (fuel : Nat) (stage : t.stage = .detect origin) (hosts : ex.Hosts t.session)
    (prompt : ex.filterDelay = 0) :
    runTask (fuel + 2) ex t = ex.detectAs t ex.surroundings origin := by
  have step : ex.step t = _ := step_detect stage
  cases admitted : (ex.inSession t.session (·.admits origin ex.now)).2 with
  | false =>
    rw [admitted, if_neg Bool.false_ne_true] at step
    unfold detectAs
    rw [runTask, step, inSession_detect_of_refused ex.surroundings admitted]
    rfl
  | true =>
    rw [admitted, if_pos rfl, if_pos prompt] at step
    obtain ⟨clock, services⟩ := surroundings_admitted ex t.session origin
    rw [runTask, step]
    dsimp only
    rw [runTask_filtered fuel rfl, clock, services]
    exact congrArg (fun after => after.1.finish t (.detected after.2))
      (inSession_detect hosts ex.surroundings admitted)

/-! ### Its turn -/

section Turn

variable (first : ex.ready = t.id :: rest) (found : ex.task? t.id = some t)

include first found

/-- **A task that detects a domain, at its turn**, if the local filter answers at once or is not asked. -/
theorem runFirst_detect (stage : t.stage = .detect origin) (hosts : ex.Hosts t.session)
    (prompt : ex.filterDelay = 0 ∨
      ((ex.turned rest).inSession t.session (·.admits origin ex.now)).2 = false) :
    ex.runFirst = (ex.turned rest).detectAs t ex.surroundings origin := by
  rw [runFirst_eq first found]
  rcases prompt with prompt | refused
  · have hosted : (ex.turned rest).Hosts t.session := hosts
    exact runTask_detect 999999999998 stage hosted prompt
  · have step : (ex.turned rest).step t = _ := step_detect stage
    rw [if_neg (by exact ne_true_of_eq_false refused)] at step
    unfold detectAs
    rw [inSession_detect_of_refused ex.surroundings refused]
    show runTask (999999999999 + 1) _ t = _
    rw [runTask, step]
    rfl

/-- If the local filter does not answer at once, the task waits for its answer about a domain that is
admitted. -/
theorem runFirst_asks (stage : t.stage = .detect origin) (delayed : ex.filterDelay ≠ 0)
    (admitted : ((ex.turned rest).inSession t.session (·.admits origin ex.now)).2 = true) :
    ex.runFirst =
      (asked ((ex.turned rest).inSession t.session (·.admits origin ex.now)).1 origin).park t
        (.filtered origin) (.time (ex.now + ex.filterDelay) false) := by
  have step : (ex.turned rest).step t = _ := step_detect stage
  rw [if_pos (by exact admitted), if_neg (by exact delayed)] at step
  rw [runFirst_eq first found]
  show runTask (999999999999 + 1) _ t = _
  rw [runTask, step]
  rfl

/-- **What the task does with the answer** is the rest of the detection, as if all of it took place now, if in
its session nothing happened in between. -/
theorem runFirst_answered {earlier : Executor} (stage : t.stage = .filtered origin)
    (hosts : earlier.Hosts t.session)
    (admitted : (earlier.inSession t.session (·.admits origin earlier.now)).2 = true)
    (state : ex.state = (asked (earlier.inSession t.session (·.admits origin earlier.now)).1 origin).state)
    (retired : ex.retired = (earlier.inSession t.session (·.admits origin earlier.now)).1.retired)
    (current : ex.current = earlier.current) :
    ex.runFirst =
      ({ ex.turned rest with state := earlier.state, retired := earlier.retired } : Executor).detectAs t
        { ex.surroundings with instant := earlier.now } origin := by
  let whole : Executor := { ex.turned rest with state := earlier.state, retired := earlier.retired }
  have known : whole.Hosts t.session := by
    unfold Hosts
    rw [show whole.current = earlier.current from current]
    exact hosts
  have same := inSession_transport earlier whole rfl rfl current t.session (·.admits origin earlier.now)
  have detected := inSession_detect known { ex.surroundings with instant := earlier.now }
    ((congrArg Prod.snd same).trans admitted)
  have restored : ∀ s others, ex.state = s → ex.retired = others →
      ({ whole with state := s, retired := others } : Executor) = ex.turned rest := by
    rintro _ _ rfl rfl
    rfl
  have before : asked (whole.inSession t.session (·.admits origin earlier.now)).1 origin =
      ex.turned rest := by
    rw [same]
    exact restored _ _ state retired
  rw [before] at detected
  rw [runFirst_eq first found]
  show runTask (999999999999 + 1) _ t = _
  rw [runTask_filtered _ stage]
  exact congrArg (fun after => after.1.finish t (.detected after.2)) detected

end Turn

/-! ### Performing a detection -/

theorem runUntilDone_done {id : Nat} (done : (ex.result? id).isSome) (fuel : Nat) :
    runUntilDone fuel ex id = ex := by
  cases fuel with
  | zero => rfl
  | succ fuel => exact if_pos done

theorem runUntilDone_first {id next : Nat} (unfinished : ex.result? id = none)
    (first : ex.ready = next :: rest) (fuel : Nat) :
    runUntilDone (fuel + 1) ex id = runUntilDone fuel ex.runFirst id := by
  rw [runUntilDone, unfinished, first]
  rfl

theorem runUntilDone_waits {id : Nat} {due : Int} (unfinished : ex.result? id = none)
    (idle : ex.ready = []) (waits : ex.nextDue? = some due) (fuel : Nat) :
    runUntilDone (fuel + 1) ex id = runUntilDone fuel (ex.moveTo due (some id)) id := by
  rw [runUntilDone, unfinished, idle, waits]
  rfl

/-- The task of an operation that is done at once. -/
def performer (ex : Executor) (stage : Stage) : Task :=
  ⟨ex.fresh, ex.current, stage, none, none, false, none, none⟩

/-- The service with an operation that is done at once. -/
def performing (ex : Executor) (stage : Stage) : Executor :=
  { ex with
    fresh := ex.fresh + 1
    tasks := ex.tasks ++ [ex.performer stage]
    ready := ex.fresh :: ex.ready }

namespace Tidy

theorem perform_eq (tidy : ex.Tidy) (stage : Stage) :
    ex.perform stage =
      ({ runUntilDone stepBound (ex.performing stage) ex.fresh with
          results := (runUntilDone stepBound (ex.performing stage) ex.fresh).results.filter
            (·.1 != ex.fresh) },
        (runUntilDone stepBound (ex.performing stage) ex.fresh).result? ex.fresh) := by
  have others : (ex.ready ++ [ex.fresh]).filter (· != ex.fresh) = ex.ready := by
    rw [List.filter_append, List.filter_eq_self.mpr, List.filter_cons_of_neg (by simp), List.filter_nil,
      List.append_nil]
    exact fun id there => bne_iff_ne.mpr (Nat.ne_of_lt (tidy.ready id there))
  unfold Executor.perform Executor.spawn
  dsimp only
  rw [others]
  rfl

theorem task?_spawn (tidy : ex.Tidy) (session : Nat) (stage : Stage) (permit : Option Nat) :
    (ex.spawn session stage permit).1.task? ex.fresh =
      some ⟨ex.fresh, session, stage, none, none, false, none, permit⟩ := by
  have others : ex.tasks.find? (fun t => t.id = ex.fresh) = none :=
    List.find?_eq_none.mpr fun t there own =>
      Nat.ne_of_lt (tidy.tasks t there).id (of_decide_eq_true own)
  show (ex.tasks ++ [_]).find? _ = _
  rw [List.find?_append, others, Option.none_or]
  exact List.find?_cons_of_pos (decide_eq_true rfl)

theorem task?_performing (tidy : ex.Tidy) (stage : Stage) :
    (ex.performing stage).task? ex.fresh = some (ex.performer stage) :=
  tidy.task?_spawn ex.current stage none

theorem result?_fresh (tidy : ex.Tidy) : ex.results.lookup ex.fresh = none := by
  rw [lookup_eq_none_iff, List.mem_map]
  rintro ⟨r, there, own⟩
  exact Nat.ne_of_lt (tidy.results r there) own

/-- The operation finishes a task of its own, so that its result is there and the other tasks are left. -/
theorem detectAs_eq (tidy : ex.Tidy) {around : Surroundings} (own : t.id = ex.fresh)
    (current : t.session = mid.current) (free : t.permit = none) (tasks : mid.tasks = ex.tasks ++ [t])
    (results : mid.results = ex.results) :
    mid.detectAs t around origin =
      { mid with
        state := (mid.state.detect around origin).1
        tasks := ex.tasks
        results := ex.results ++ [(ex.fresh, .detected (mid.state.detect around origin).2)] } := by
  have others : mid.tasks.filter (fun other => other.id != t.id) = ex.tasks := by
    rw [tasks, List.filter_append, List.filter_eq_self.mpr, List.filter_cons_of_neg (by simp),
      List.filter_nil, List.append_nil]
    exact fun s there => bne_iff_ne.mpr (own ▸ Nat.ne_of_lt (tidy.tasks s there).id)
  unfold detectAs finish
  rw [inSession_current current, free]
  dsimp only
  rw [others, results, own]

/-- An operation whose task ends as a detection. -/
theorem perform_of_run (tidy : ex.Tidy) {around : Surroundings} {stage : Stage} (fuel : Nat)
    (run : runUntilDone stepBound (ex.performing stage) ex.fresh =
      runUntilDone fuel (mid.detectAs t around origin) ex.fresh)
    (own : t.id = ex.fresh) (current : t.session = mid.current) (free : t.permit = none)
    (tasks : mid.tasks = ex.tasks ++ [t]) (results : mid.results = ex.results) :
    ex.perform stage =
      ({ mid with
          state := (mid.state.detect around origin).1
          tasks := ex.tasks },
        some (.detected (mid.state.detect around origin).2)) := by
  have ended : mid.detectAs t around origin = _ := tidy.detectAs_eq own current free tasks results
  have found : (mid.detectAs t around origin).result? ex.fresh =
      some (.detected (mid.state.detect around origin).2) := by
    rw [ended]
    show (ex.results ++ [_]).lookup ex.fresh = _
    rw [List.lookup_append, tidy.result?_fresh, Option.none_or]
    exact List.lookup_cons_self
  have left : (ex.results ++ [(ex.fresh, TaskResult.detected (mid.state.detect around origin).2)]).filter
      (·.1 != ex.fresh) = ex.results := by
    rw [List.filter_append, List.filter_eq_self.mpr, List.filter_cons_of_neg (by simp), List.filter_nil,
      List.append_nil]
    exact fun r there => bne_iff_ne.mpr (Nat.ne_of_lt (tidy.results r there))
  rw [tidy.perform_eq, run, runUntilDone_done (by rw [found]; rfl), found, ended]
  dsimp only
  rw [left, ← results]

/-- The task of an operation has the first turn. -/
theorem runUntilDone_performing (tidy : ex.Tidy) {stage : Stage} {after : Executor}
    (turn : (ex.performing stage).runFirst = after) :
    runUntilDone stepBound (ex.performing stage) ex.fresh =
      runUntilDone 999999999999 after ex.fresh := by
  have unfinished : (ex.performing stage).result? ex.fresh = none := tidy.result?_fresh
  rw [← turn]
  exact runUntilDone_first unfinished rfl 999999999999

end Tidy

/-- **A detection that is performed** is the examiner's, if the local filter answers at once. -/
theorem perform_detect (tidy : ex.Tidy) (prompt : ex.filterDelay = 0) (origin : String) :
    ex.perform (.detect origin) =
      ({ ex with
          state := (ex.state.detect ex.surroundings origin).1
          fresh := ex.fresh + 1 },
        some (.detected (ex.state.detect ex.surroundings origin).2)) := by
  let begun := ex.performing (.detect origin)
  let task := ex.performer (.detect origin)
  have turn : begun.runFirst = (begun.turned ex.ready).detectAs task begun.surroundings origin :=
    runFirst_detect rfl (tidy.task?_performing _) rfl (.inl rfl) (.inl prompt)
  have run := tidy.runUntilDone_performing turn
  exact tidy.perform_of_run _ run rfl rfl rfl rfl rfl

/-! ### Without other tasks -/

theorem inSession_admits (ex other : Executor) (current : other.current = ex.current)
    (state : other.state = ex.state) (origin : String) : other.inSession ex.current (·.admits origin ex.now) =
      ({ other with state := (ex.state.admits origin ex.now).1 }, (ex.state.admits origin ex.now).2) := by
  rw [inSession_current current.symm, state]

/-- The only task goes on when its time has come. -/
theorem moveTo_single {due : Int} {orStop : Bool} {turn : Nat} (tasks : ex.tasks = [t])
    (ready : ex.ready = []) (waits : t.waiting = some (.time due orStop, turn)) :
    ex.moveTo due (some t.id) =
      { ex with now := due, tasks := [{ t with waiting := none }], ready := [t.id] } := by
  unfold moveTo waitingFor wakeAll wake
  simp [tasks, ready, waits]

/-- The only task, when it has asked the local filter. -/
def waiter (ex : Executor) (origin : String) : Task :=
  { ex.performer (.detect origin) with
    stage := .filtered origin
    waiting := some (.time (ex.now + ex.filterDelay) false, ex.fresh + 1) }

/-- The service while its only task waits for the answer. -/
def waiting (ex : Executor) (origin : String) : Executor :=
  { ex with
    state := (ex.state.admits origin ex.now).1.ask [.filter (State.detectionRequest origin)]
    tasks := [ex.waiter origin]
    fresh := ex.fresh + 2 }

/-- The only task, when its wait is over. -/
def asker (ex : Executor) (origin : String) : Task := { ex.waiter origin with waiting := none }

/-- The service when its only task has the answer. -/
def woken (ex : Executor) (origin : String) : Executor :=
  { ex.waiting origin with
    now := ex.now + ex.filterDelay
    tasks := [ex.asker origin]
    ready := [ex.fresh] }

/-- The service at that time, but in the state before the detection. -/
def delayed (ex : Executor) (origin : String) : Executor :=
  { (ex.woken origin).turned [] with state := ex.state, retired := ex.retired }

section Alone

variable (tidy : ex.Tidy) (tasks : ex.tasks = []) (ready : ex.ready = [])
  (admitted : (ex.state.admits origin ex.now).2 = true)

include tidy tasks admitted in
theorem runFirst_performing (delayed : ex.filterDelay ≠ 0) :
    (ex.performing (.detect origin)).runFirst = ex.waiting origin := by
  let begun := ex.performing (.detect origin)
  let task := ex.performer (.detect origin)
  have entered := inSession_admits ex (begun.turned ex.ready) rfl rfl origin
  have asks : begun.runFirst = (asked ((begun.turned ex.ready).inSession task.session
      (·.admits origin ex.now)).1 origin).park task (.filtered origin)
        (.time (ex.now + ex.filterDelay) false) :=
    runFirst_asks rfl (tidy.task?_performing _) rfl delayed ((congrArg Prod.snd entered).trans admitted)
  rw [asks]
  show (asked ((begun.turned ex.ready).inSession ex.current _).1 origin).park _ _ _ = _
  rw [entered]
  unfold park putTask asked
  simp [waiting, begun, task, performing, turned, tasks, waiter, performer]

include admitted in
theorem runFirst_woken :
    (ex.woken origin).runFirst =
      (ex.delayed origin).detectAs (ex.asker origin)
        { (ex.woken origin).surroundings with instant := ex.now } origin := by
  have entered := inSession_admits ex ex rfl rfl origin
  refine runFirst_answered rfl ?_ rfl (.inl rfl) ((congrArg Prod.snd entered).trans admitted) ?_ ?_ rfl
  · exact List.find?_cons_of_pos (decide_eq_true rfl)
  · exact congrArg (fun after => (asked after.1 origin).state) entered.symm
  · exact congrArg (fun after => after.1.retired) entered.symm

include tidy ready admitted in
/-- The task waits for the answer and goes on with it. -/
theorem runUntilDone_waiting (fuel : Nat) :
    runUntilDone (fuel + 2) (ex.waiting origin) ex.fresh =
      runUntilDone fuel ((ex.delayed origin).detectAs (ex.asker origin)
        { (ex.woken origin).surroundings with instant := ex.now } origin) ex.fresh := by
  have alone : (ex.waiting origin).tasks = [ex.waiter origin] := rfl
  have moved : (ex.waiting origin).moveTo (ex.now + ex.filterDelay) (some ex.fresh) = ex.woken origin :=
    moveTo_single alone ready rfl
  have unfinished : (ex.waiting origin).result? ex.fresh = none := tidy.result?_fresh
  have unfinished' : (ex.woken origin).result? ex.fresh = none := tidy.result?_fresh
  have due : (ex.waiting origin).nextDue? = some (ex.now + ex.filterDelay) := rfl
  rw [runUntilDone_waits unfinished ready due, moved, runUntilDone_first unfinished' rfl,
    runFirst_woken admitted]

end Alone

/-- **A detection that is performed where there are no other tasks** is the detection of the examiner, which
reads the clock when the local filter has answered. -/
theorem perform_detect_alone (tidy : ex.Tidy) (tasks : ex.tasks = []) (ready : ex.ready = [])
    (origin : String) :
    ∃ now fresh, ex.now ≤ now ∧ now ≤ ex.now + ex.filterDelay ∧
      ex.perform (.detect origin) =
        ({ ex with
            state := (ex.state.detect { ex.surroundings with clock := fun _ => Int64.ofInt now } origin).1
            now
            fresh },
          some (.detected
            (ex.state.detect { ex.surroundings with clock := fun _ => Int64.ofInt now } origin).2)) := by
  by_cases prompt : ex.filterDelay = 0
  · refine ⟨ex.now, ex.fresh + 1, Int.le_refl _, ?_, perform_detect tidy prompt origin⟩
    omega
  cases admitted : (ex.state.admits origin ex.now).2 with
  | false =>
    let begun := ex.performing (.detect origin)
    let task := ex.performer (.detect origin)
    have entered := inSession_admits ex (begun.turned ex.ready) rfl rfl origin
    have turn : begun.runFirst = (begun.turned ex.ready).detectAs task begun.surroundings origin :=
      runFirst_detect rfl (tidy.task?_performing _) rfl (.inl rfl)
        (.inr ((congrArg Prod.snd entered).trans admitted))
    refine ⟨ex.now, ex.fresh + 1, Int.le_refl _, by omega, ?_⟩
    exact tidy.perform_of_run _ (tidy.runUntilDone_performing turn) rfl rfl rfl rfl rfl
  | true =>
    have asks := tidy.runUntilDone_performing (runFirst_performing tidy tasks admitted prompt)
    have answered := runUntilDone_waiting tidy ready admitted 999999999997
    have own : (ex.delayed origin).tasks = ex.tasks ++ [ex.asker origin] := by
      rw [tasks]
      rfl
    have performed := tidy.perform_of_run _ (asks.trans answered) rfl rfl rfl own rfl
    refine ⟨ex.now + ex.filterDelay, ex.fresh + 2, by omega, Int.le_refl _, ?_⟩
    rw [performed, ready]
    rfl

/-! ### Detections of one domain -/

/-- **To detect a domain is to examine it**, as an operation and as a task. -/
structure Examines (origin : String) : Prop where
  /-- An operation does it in the current session, if the local filter answers at once, -/
  performed : ∀ ex : Executor, ex.Tidy → ex.filterDelay = 0 →
    ex.perform (.detect origin) =
      ({ ex with
          state := (ex.state.detect ex.surroundings origin).1
          fresh := ex.fresh + 1 },
        some (.detected (ex.state.detect ex.surroundings origin).2))
  /-- or later, if there are no other tasks. -/
  alone : ∀ ex : Executor, ex.Tidy → ex.tasks = [] → ex.ready = [] →
    ∃ now fresh, ex.now ≤ now ∧ now ≤ ex.now + ex.filterDelay ∧
      ex.perform (.detect origin) =
        ({ ex with
            state := (ex.state.detect { ex.surroundings with clock := fun _ => Int64.ofInt now } origin).1
            now
            fresh },
          some (.detected
            (ex.state.detect { ex.surroundings with clock := fun _ => Int64.ofInt now } origin).2))
  /-- A task is there when it has begun. -/
  begun : ∀ ex : Executor, ex.Tidy → ∀ session permit,
    (ex.spawn session (.detect origin) permit).1.task? ex.fresh =
      some ⟨ex.fresh, session, .detect origin, none, none, false, none, permit⟩
  /-- At its turn it does it in its session, if the local filter answers at once or is not asked. -/
  turn : ∀ (ex : Executor) (t : Task) (rest : List Nat), ex.ready = t.id :: rest →
    ex.task? t.id = some t → t.stage = .detect origin → ex.Hosts t.session →
      (ex.filterDelay = 0 ∨ ((ex.turned rest).inSession t.session (·.admits origin ex.now)).2 = false) →
        ex.runFirst = (ex.turned rest).detectAs t ex.surroundings origin
  /-- Otherwise it asks and waits, -/
  asks : ∀ (ex : Executor) (t : Task) (rest : List Nat), ex.ready = t.id :: rest →
    ex.task? t.id = some t → t.stage = .detect origin → ex.filterDelay ≠ 0 →
      ((ex.turned rest).inSession t.session (·.admits origin ex.now)).2 = true →
        ex.runFirst =
          (asked ((ex.turned rest).inSession t.session (·.admits origin ex.now)).1 origin).park t
            (.filtered origin) (.time (ex.now + ex.filterDelay) false)
  /-- and does the rest when it has the answer. -/
  answered : ∀ (earlier ex : Executor) (t : Task) (rest : List Nat), ex.ready = t.id :: rest →
    ex.task? t.id = some t → t.stage = .filtered origin → earlier.Hosts t.session →
      (earlier.inSession t.session (·.admits origin earlier.now)).2 = true →
        ex.state = (asked (earlier.inSession t.session (·.admits origin earlier.now)).1 origin).state →
          ex.retired = (earlier.inSession t.session (·.admits origin earlier.now)).1.retired →
            ex.current = earlier.current →
              ex.runFirst =
                ({ ex.turned rest with
                    state := earlier.state
                    retired := earlier.retired } : Executor).detectAs
                  t { ex.surroundings with instant := earlier.now } origin

theorem examines (origin : String) : Examines origin where
  performed _ tidy prompt := perform_detect tidy prompt origin
  alone _ tidy tasks ready := perform_detect_alone tidy tasks ready origin
  begun _ tidy session permit := tidy.task?_spawn session _ permit
  turn _ _ _ first found stage hosts prompt := runFirst_detect first found stage hosts prompt
  asks _ _ _ first found stage delayed admitted := runFirst_asks first found stage delayed admitted
  answered _ _ _ _ first found stage hosts admitted state retired current :=
    runFirst_answered first found stage hosts admitted state retired current

end CategoryFilter.Executor
