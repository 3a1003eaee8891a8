/-
**The feature switch and its stored value.**

A call that switches the feature stores the switch and then changes the session. Nothing keeps the steps of
another call from coming between the two. `Switching` is an examiner with such calls under way, and a
schedule says whose step is next and whether the database refuses it:

* `storedSwitch_withSetting`: what a new session starts with after a switch was stored.
* `interleave_alone`: a call without others does what the operation of the examiner does.
* `Follows.advance`: the session has the switch that it was given last, the database the one that was
  stored last.
* `Follows.agrees_iff`: so they agree after a schedule exactly if these are the same.
* `switched_agrees_iff`: they agree after every schedule exactly if all calls switch to the same side, or if
  no switch can be stored.
* `switched_apart`: the schedule of two calls after which they do not.
-/

import CategoryFilter.Examiner.State
import CategoryFilter.Proofs.Json.RoundTrip
import CategoryFilter.Proofs.Lookup
import CategoryFilter.Proofs.Store.Execution
import CategoryFilter.Store.Schema

namespace CategoryFilter

open Database (execute)

/-! ### Storing the switch -/

namespace Database

variable {db : Database} {settings : List (String × String)}

/-- The database after the text of a setting was stored. -/
def withSetting (db : Database) (settings : List (String × String)) (key text : String) : Database :=
  { db with settings := some ((settings.filter fun s => s.1 != key) ++ [(key, text)]) }

theorem execute_readSettings (present : db.settings = some settings) :
    execute readSettings db = (.ok settings, db) := by
  obtain ⟨version, sets, _, guarded⟩ := db
  cases present
  rfl

theorem execute_readSettings_missing (missing : db.settings = none) :
    execute readSettings db = (.error .database, db) := by
  obtain ⟨version, sets, _, guarded⟩ := db
  cases missing
  rfl

theorem execute_putSetting (present : db.settings = some settings) (key : String) (value : Json) :
    execute (putSetting key value) db = (.ok (), db.withSetting settings key value.render) :=
  execute_bind_ok (execute_readSettings present)

theorem execute_putSetting_missing (missing : db.settings = none) (key : String) (value : Json) :
    execute (putSetting key value) db = (.error .database, db) :=
  execute_bind_error (execute_readSettings_missing missing)

theorem lookup_withSetting (settings : List (String × String)) (key text : String) :
    ((settings.filter fun s => s.1 != key) ++ [(key, text)]).lookup key = some text := by
  rw [List.lookup_append, lookup_filter (· != key), if_neg (by simp), Option.none_or, List.lookup_cons_self]

/-- A stored value is read again, if its text stands for it. -/
theorem execute_settingOr_withSetting {α : Type} (db : Database) (settings : List (String × String))
    (key : String) {value : Json} (readable : (Json.read value.render).bind Json.any? = some value)
    (absent : α) {read : Json → Option α} {a : α} (fits : read value = some a) :
    execute (settingOr key absent read) (db.withSetting settings key value.render) =
      (.ok a, db.withSetting settings key value.render) := by
  have text : execute (settingText? key) (db.withSetting settings key value.render) =
      (.ok (some value.render), db.withSetting settings key value.render) := by
    refine (execute_bind_ok (execute_readSettings rfl)).trans ?_
    rw [lookup_withSetting]
    rfl
  have setting : execute (setting? key) (db.withSetting settings key value.render) =
      (.ok (some ⟨key, value⟩), db.withSetting settings key value.render) := by
    refine (execute_bind_ok text).trans ?_
    dsimp only
    rw [readable]
    rfl
  refine (execute_bind_ok setting).trans ?_
  dsimp only
  rw [fits]
  rfl

end Database

theorem readable_bool (on : Bool) :
    (Json.read (Json.bool on).render).bind Json.any? = some (.bool on) := by
  have writable : (Json.bool on).Writable 0 := trivial
  rw [Json.read_render writable]
  rfl

/-- **A stored switch is the one that a new session starts with.** -/
theorem storedSwitch_withSetting (config : Config) (db : Database) (settings : List (String × String))
    (on : Bool) :
    storedSwitch config (db.withSetting settings featureKey (Json.bool on).render) = on := by
  have fits : Json.bool? (.bool on) = some on := rfl
  have read := Database.execute_settingOr_withSetting db settings featureKey (readable_bool on)
    config.enabled fits
  unfold execute at read
  unfold storedSwitch
  rw [read]

namespace State

variable {s : State} {settings : List (String × String)} {on : Bool}

/-- The session has the switch that a new session would start with. -/
def Agrees (s : State) : Prop :=
  s.session.enabled = s.restart.session.enabled

theorem agrees_new (config : Config) (db : Database) : (State.new config db).Agrees := rfl

theorem persistSwitch_present (present : s.database.settings = some settings) (on : Bool) :
    s.persistSwitch on =
      ({ s with database := s.database.withSetting settings featureKey (Json.bool on).render }, .ok ()) := by
  have stored := Database.execute_putSetting present featureKey (.bool on)
  unfold execute at stored
  unfold persistSwitch act
  rw [stored]

theorem persistSwitch_missing (missing : s.database.settings = none) (on : Bool) :
    s.persistSwitch on = (s, .error .database) := by
  have failed := Database.execute_putSetting_missing missing featureKey (.bool on)
  unfold execute at failed
  unfold persistSwitch act
  rw [failed]

/-- **A call alone keeps the session and the database in agreement**, if it fails or not. -/
theorem agrees_setEnabled (agrees : s.Agrees) (on : Bool) : (s.setEnabled on).1.Agrees := by
  unfold setEnabled
  rcases present : s.database.settings with _ | settings
  · rw [persistSwitch_missing present]
    exact agrees
  · rw [persistSwitch_present present]
    exact (storedSwitch_withSetting s.config s.database settings on).symm

end State

/-! ### Calls under way -/

/-- A step of a call that switches the feature. -/
inductive SwitchStep where
  | persist (on : Bool)
  | commit (on : Bool)
deriving Repr, DecidableEq

/-- The switch of the call. -/
def SwitchStep.switch : SwitchStep → Bool
  | .persist on | .commit on => on

/-- An examiner with calls under way that switch the feature. -/
structure Switching where
  state : State
  /-- The next step of each call; none if it has returned. -/
  running : List (Option SwitchStep)
  /-- The switches that were stored, the last one first. -/
  stored : List Bool
  /-- The switches that the session was given, the last one first. -/
  given : List Bool

namespace Switching

/-- Some calls that begin at once. -/
def begin (s : State) (calls : List Bool) : Switching :=
  ⟨s, calls.map fun on => some (.persist on), [], []⟩

/-- The next step of a call, by its place among the calls. The database may refuse to store a switch, which
ends the call. -/
def advance (c : Switching) (turn : Nat × Bool) : Switching :=
  let (i, refused) := turn
  match c.running[i]? with
  | some (some (.persist on)) =>
    if refused then { c with running := c.running.set i none }
    else
      match c.state.persistSwitch on with
      | (s, .ok ()) =>
        { c with state := s, running := c.running.set i (some (.commit on)), stored := on :: c.stored }
      | (s, .error _) => { c with state := s, running := c.running.set i none }
  | some (some (.commit on)) =>
    { c with
      state := c.state.commitSwitch on, running := c.running.set i none, given := on :: c.given }
  | _ => c

/-- The steps of some calls in the order of a schedule. -/
def interleave (c : Switching) (schedule : List (Nat × Bool)) : Switching :=
  schedule.foldl advance c

/-- No call is under way: none has stored its switch and not yet returned. -/
def Quiet (c : Switching) : Prop :=
  ∀ on, some (.commit on) ∉ c.running

variable {c : Switching} {s : State} {calls : List Bool} {settings : List (String × String)}
  {i j : Nat} {on : Bool}

/-! ### One step -/

/-- A switch that the database refuses, or that it has no table for, is not stored. -/
theorem advance_refused (waiting : c.running[i]? = some (some (.persist on))) {refused : Bool}
    (fails : refused = true ∨ c.state.database.settings = none) :
    c.advance (i, refused) = { c with running := c.running.set i none } := by
  unfold advance
  dsimp only
  rw [waiting]
  rcases fails with rfl | missing
  · rfl
  · dsimp only
    rw [State.persistSwitch_missing missing]
    split <;> rfl

/-- A switch that is stored is the session's next. -/
theorem advance_persist (waiting : c.running[i]? = some (some (.persist on)))
    (present : c.state.database.settings = some settings) :
    c.advance (i, false) =
      { state := { c.state with
          database := c.state.database.withSetting settings featureKey (Json.bool on).render }
        running := c.running.set i (some (.commit on))
        stored := on :: c.stored
        given := c.given } := by
  unfold advance
  dsimp only
  rw [waiting]
  dsimp only
  rw [State.persistSwitch_present present]
  rfl

theorem advance_commit (waiting : c.running[i]? = some (some (.commit on))) (refused : Bool) :
    c.advance (i, refused) =
      { c with
        state := c.state.commitSwitch on, running := c.running.set i none, given := on :: c.given } := by
  unfold advance
  dsimp only
  rw [waiting]

theorem advance_idle (idle : ∀ step, c.running[i]? ≠ some (some step)) (refused : Bool) :
    c.advance (i, refused) = c := by
  unfold advance
  dsimp only
  split
  · next waiting => exact absurd waiting (idle _)
  · next waiting => exact absurd waiting (idle _)
  · rfl

/-- All that a step can do. -/
theorem advance_cases (c : Switching) (turn : Nat × Bool) :
    c.advance turn = c ∨
    (∃ on, c.running[turn.1]? = some (some (.persist on)) ∧
      c.advance turn = { c with running := c.running.set turn.1 none }) ∨
    (∃ on settings, c.running[turn.1]? = some (some (.persist on)) ∧
      c.state.database.settings = some settings ∧
      c.advance turn =
        { state := { c.state with
            database := c.state.database.withSetting settings featureKey (Json.bool on).render }
          running := c.running.set turn.1 (some (.commit on))
          stored := on :: c.stored
          given := c.given }) ∨
    (∃ on, c.running[turn.1]? = some (some (.commit on)) ∧
      c.advance turn =
        { c with
          state := c.state.commitSwitch on
          running := c.running.set turn.1 none
          given := on :: c.given }) := by
  obtain ⟨i, refused⟩ := turn
  rcases waiting : c.running[i]? with _ | _ | step
  · exact Or.inl (advance_idle (fun step busy => by rw [waiting] at busy; cases busy) refused)
  · exact Or.inl (advance_idle (fun step busy => by rw [waiting] at busy; cases busy) refused)
  · cases step with
    | persist on =>
      rcases present : c.state.database.settings with _ | settings
      · exact Or.inr (Or.inl ⟨on, rfl, advance_refused waiting (Or.inr present)⟩)
      · cases refused with
        | true => exact Or.inr (Or.inl ⟨on, rfl, advance_refused waiting (Or.inl rfl)⟩)
        | false => exact Or.inr (Or.inr (Or.inl ⟨on, settings, rfl, rfl, advance_persist waiting present⟩))
    | commit on => exact Or.inr (Or.inr (Or.inr ⟨on, rfl, advance_commit waiting refused⟩))

/-- A call without others does what switching the feature does. -/
theorem interleave_alone (s : State) (on : Bool) :
    ((begin s [on]).interleave [(0, false), (0, false)]).state = (s.setEnabled on).1 := by
  have waiting : (begin s [on]).running[0]? = some (some (.persist on)) := rfl
  show (((begin s [on]).advance (0, false)).advance (0, false)).state = _
  unfold State.setEnabled
  rcases present : s.database.settings with _ | settings
  · rw [advance_refused waiting (Or.inr present), State.persistSwitch_missing present]
    rfl
  · rw [advance_persist waiting present, advance_commit rfl, State.persistSwitch_present present]
    rfl

/-! ### What every schedule keeps -/

/-- The session has the switch that it was given last, and the database the one that was stored last. -/
structure Follows (s : State) (calls : List Bool) (c : Switching) : Prop where
  config : c.state.config = s.config
  session : c.state.session.enabled = c.given.headD s.session.enabled
  database : storedSwitch s.config c.state.database = c.stored.headD (storedSwitch s.config s.database)
  present : c.state.database.settings.isSome = s.database.settings.isSome
  writable : c.stored ≠ [] → s.database.settings.isSome = true
  /-- A stored switch is given to the session, or a call is about to. -/
  paired : c.stored = [] ↔ c.given = [] ∧ c.Quiet
  storedCalled : ∀ on ∈ c.stored, on ∈ calls
  givenCalled : ∀ on ∈ c.given, on ∈ calls
  runningCalled : ∀ step, some step ∈ c.running → step.switch ∈ calls

theorem quiet_begin (s : State) (calls : List Bool) : (begin s calls).Quiet := by
  intro on listed
  obtain ⟨call, -, impossible⟩ := List.mem_map.mp listed
  cases impossible

theorem follows_begin (s : State) (calls : List Bool) : Follows s calls (begin s calls) := by
  refine ⟨rfl, rfl, rfl, rfl, fun some => absurd rfl some,
    ⟨fun _ => ⟨rfl, quiet_begin s calls⟩, fun _ => rfl⟩, nofun, nofun, fun step listed => ?_⟩
  obtain ⟨call, there, same⟩ := List.mem_map.mp listed
  cases same
  exact there

/-- The step of a call stays the next one while other calls go on. -/
theorem mem_set_of_ne {running : List (Option SwitchStep)} {step other next : Option SwitchStep}
    (waiting : running[i]? = some other) (different : step ≠ other) (listed : step ∈ running) :
    step ∈ running.set i next := by
  obtain ⟨j, place⟩ := List.mem_iff_getElem?.mp listed
  have apart : i ≠ j := by
    rintro rfl
    rw [waiting] at place
    exact different (Option.some.inj place).symm
  exact List.mem_iff_getElem?.mpr ⟨j, (List.getElem?_set_ne apart).trans place⟩

theorem Follows.advance (follows : Follows s calls c) (turn : Nat × Bool) :
    Follows s calls (c.advance turn) := by
  have returned : ∀ step, some step ∈ c.running.set turn.1 none → step.switch ∈ calls :=
    fun step listed =>
      follows.runningCalled step ((List.mem_or_eq_of_mem_set listed).resolve_right nofun)
  rcases c.advance_cases turn with same | ⟨on, waiting, same⟩ | ⟨on, settings, waiting, present, same⟩ |
    ⟨on, waiting, same⟩ <;> rw [same]
  · exact follows
  · -- The call returns with an error.
    refine ⟨follows.config, follows.session, follows.database, follows.present, follows.writable, ?_,
      follows.storedCalled, follows.givenCalled, returned⟩
    rw [follows.paired]
    refine and_congr_right fun _ => forall_congr' fun other =>
      not_congr ⟨fun listed => mem_set_of_ne waiting nofun listed, fun listed => ?_⟩
    exact (List.mem_or_eq_of_mem_set listed).resolve_right nofun
  · -- The switch is stored.
    have own : on ∈ calls := follows.runningCalled _ (List.mem_of_getElem? waiting)
    have there : turn.1 < c.running.length := (List.getElem?_eq_some_iff.mp waiting).1
    have table : s.database.settings.isSome = true := by
      rw [← follows.present, present]
      rfl
    refine ⟨follows.config, follows.session, storedSwitch_withSetting s.config _ settings on, table.symm,
      fun _ => table, ⟨nofun, fun none => absurd (List.mem_set there _) (none.2 on)⟩,
      List.forall_mem_cons.mpr ⟨own, follows.storedCalled⟩, follows.givenCalled, fun step listed => ?_⟩
    rcases List.mem_or_eq_of_mem_set listed with listed | new
    · exact follows.runningCalled step listed
    · cases new
      exact own
  · -- The session is given the switch.
    have listed := List.mem_of_getElem? waiting
    exact ⟨follows.config, rfl, follows.database, follows.present, follows.writable,
      ⟨fun none => absurd listed ((follows.paired.mp none).2 on), nofun⟩, follows.storedCalled,
      List.forall_mem_cons.mpr ⟨follows.runningCalled _ listed, follows.givenCalled⟩, returned⟩

theorem Follows.interleave (follows : Follows s calls c) (schedule : List (Nat × Bool)) :
    Follows s calls (c.interleave schedule) := by
  induction schedule generalizing c with
  | nil => exact follows
  | cons turn rest ih => exact ih (follows.advance turn)

/-- **They agree if the switch that was stored last was given last as well.** -/
theorem Follows.agrees_iff (follows : Follows s calls c) (agrees : s.Agrees) (quiet : c.Quiet) :
    c.state.Agrees ↔ c.stored.head? = c.given.head? := by
  have empty : c.stored = [] ↔ c.given = [] := follows.paired.trans (and_iff_left quiet)
  have start : s.session.enabled = storedSwitch s.config s.database := agrees
  show c.state.session.enabled = storedSwitch c.state.config c.state.database ↔ _
  rw [follows.config, follows.session, follows.database]
  rcases stored : c.stored with _ | ⟨last, earlier⟩
  · rw [empty.mp stored]
    exact iff_of_true start rfl
  · rcases given : c.given with _ | ⟨latest, before⟩
    · rw [empty.mpr given] at stored
      cases stored
    · show latest = last ↔ some last = some latest
      rw [Option.some.injEq]
      exact eq_comm

/-- Calls that all switch to one side keep the agreement. -/
theorem Follows.agrees_of_same (follows : Follows s calls c) (agrees : s.Agrees) (quiet : c.Quiet)
    (same : ∀ call ∈ calls, call = on) : c.state.Agrees := by
  rw [follows.agrees_iff agrees quiet]
  rcases stored : c.stored with _ | ⟨last, earlier⟩
  · rw [((follows.paired.mp stored).1)]
  · rcases given : c.given with _ | ⟨latest, before⟩
    · rw [follows.paired.mpr ⟨given, quiet⟩] at stored
      cases stored
    · have one := same last (follows.storedCalled last (stored ▸ List.mem_cons_self))
      have two := same latest (follows.givenCalled latest (given ▸ List.mem_cons_self))
      rw [one, two]
      rfl

/-- Without a table of settings nothing changes. -/
theorem Follows.agrees_of_missing (follows : Follows s calls c) (agrees : s.Agrees) (quiet : c.Quiet)
    (missing : s.database.settings = none) : c.state.Agrees := by
  have stored : c.stored = [] := by
    by_contra some
    have present := follows.writable some
    rw [missing] at present
    cases present
  rw [follows.agrees_iff agrees quiet, stored, (follows.paired.mp stored).1]

/-! ### Two calls that switch to different sides -/

/-- Each call stores its switch; the one that stored it first gives it to the session last. -/
def crossing (i j : Nat) : List (Nat × Bool) :=
  [(i, false), (j, false), (j, false), (i, false)]

theorem interleave_crossing (present : c.state.database.settings = some settings) (apart : i ≠ j)
    {first second : Bool} (own : c.running[i]? = some (some (.persist first)))
    (other : c.running[j]? = some (some (.persist second))) :
    (c.interleave (crossing i j)).running = (c.running.set i none).set j none ∧
      (c.interleave (crossing i j)).stored = second :: first :: c.stored ∧
      (c.interleave (crossing i j)).given = first :: second :: c.given := by
  have inside : i < c.running.length := (List.getElem?_eq_some_iff.mp own).1
  have within : j < c.running.length := (List.getElem?_eq_some_iff.mp other).1
  let one := c.advance (i, false)
  let two := one.advance (j, false)
  let three := two.advance (j, false)
  have firstStored : one = _ := advance_persist own present
  have waiting₁ : one.running[j]? = some (some (.persist second)) := by
    rw [firstStored]
    exact (List.getElem?_set_ne apart).trans other
  obtain ⟨later, table⟩ : ∃ later, one.state.database.settings = some later := by
    rw [firstStored]
    exact ⟨_, rfl⟩
  have secondStored : two = _ := advance_persist waiting₁ table
  have waiting₂ : two.running[j]? = some (some (.commit second)) := by
    rw [secondStored, firstStored]
    exact List.getElem?_set_self (by rwa [List.length_set])
  have secondGiven : three = _ := advance_commit waiting₂ false
  have waiting₃ : three.running[i]? = some (some (.commit first)) := by
    rw [secondGiven, secondStored, firstStored]
    dsimp only
    rw [List.getElem?_set_ne apart.symm, List.getElem?_set_ne apart.symm, List.getElem?_set_self inside]
  have firstGiven : three.advance (i, false) = _ := advance_commit waiting₃ false
  show (three.advance (i, false)).running = _ ∧ (three.advance (i, false)).stored = _ ∧
    (three.advance (i, false)).given = _
  rw [firstGiven, secondGiven, secondStored, firstStored]
  refine ⟨?_, rfl, rfl⟩
  dsimp only
  rw [List.set_set, List.set_comm _ _ apart.symm, List.set_set]

/-- **Two calls that switch to different sides can leave the session and the database apart.** -/
theorem exists_apart (agrees : s.Agrees) (present : s.database.settings = some settings)
    (first : true ∈ calls) (second : false ∈ calls) :
    ∃ schedule, ((begin s calls).interleave schedule).Quiet ∧
      ¬ ((begin s calls).interleave schedule).state.Agrees := by
  obtain ⟨i, own⟩ := List.getElem?_of_mem first
  obtain ⟨j, other⟩ := List.getElem?_of_mem second
  have apart : i ≠ j := by
    rintro rfl
    rw [own] at other
    cases other
  have waiting : ∀ {k : Nat} {on : Bool}, calls[k]? = some on →
      (begin s calls).running[k]? = some (some (.persist on)) := by
    intro k on there
    show (calls.map _)[k]? = _
    rw [List.getElem?_map, there]
    rfl
  obtain ⟨running, stored, given⟩ :=
    interleave_crossing (c := begin s calls) present apart (waiting own) (waiting other)
  have quiet : ((begin s calls).interleave (crossing i j)).Quiet := by
    intro on listed
    rw [running] at listed
    have before := (List.mem_or_eq_of_mem_set listed).resolve_right nofun
    exact quiet_begin s calls on ((List.mem_or_eq_of_mem_set before).resolve_right nofun)
  refine ⟨crossing i j, quiet, fun kept => ?_⟩
  have same := (((follows_begin s calls).interleave _).agrees_iff agrees quiet).mp kept
  rw [stored, given] at same
  cases same

/-! ### All schedules -/

/-- **The session keeps the stored switch if the calls do not contradict each other.** From agreement, they
agree whenever no call is under way, in every schedule, exactly if all calls switch to the same side or no
switch can be stored. After a schedule they agree exactly if the last switch stored is the last one given to
the session, and calls that come one after the other keep the agreement in any case. -/
theorem switched_agrees_iff (s : State) (calls : List Bool) (agrees : s.Agrees) :
    ((∀ schedule, ((begin s calls).interleave schedule).Quiet →
        ((begin s calls).interleave schedule).state.Agrees) ↔
      s.database.settings = none ∨ ∃ on, ∀ call ∈ calls, call = on) ∧
    (∀ schedule, ((begin s calls).interleave schedule).Quiet →
      (((begin s calls).interleave schedule).state.Agrees ↔
        ((begin s calls).interleave schedule).stored.head? =
          ((begin s calls).interleave schedule).given.head?)) ∧
    (calls.foldl (fun t on => (t.setEnabled on).1) s).Agrees := by
  have follows := fun schedule => (follows_begin s calls).interleave schedule
  refine ⟨⟨fun always => ?_, ?_⟩, fun schedule => (follows schedule).agrees_iff agrees,
    List.foldlRecOn calls _ agrees fun t kept on _ => State.agrees_setEnabled kept on⟩
  · rcases present : s.database.settings with _ | settings
    · exact Or.inl rfl
    · refine Or.inr (by_contra fun mixed => ?_)
      have both : ∀ on, on ∈ calls := by
        intro on
        by_contra absent
        refine mixed ⟨!on, fun call listed => ?_⟩
        rw [Bool.eq_not]
        rintro rfl
        exact absent listed
      obtain ⟨schedule, quiet, apart⟩ := exists_apart agrees present (both true) (both false)
      exact apart (always schedule quiet)
  · rintro (missing | ⟨on, same⟩) schedule quiet
    · exact (follows schedule).agrees_of_missing agrees quiet missing
    · exact (follows schedule).agrees_of_same agrees quiet same

/-- Two calls that switch the feature off. -/
theorem switched_agrees_iff_off :
    (State.new .standard .new).Agrees ∧
      ∀ schedule, ((begin (State.new .standard .new) [false, false]).interleave schedule).Quiet →
        ((begin (State.new .standard .new) [false, false]).interleave schedule).state.Agrees := by
  have agrees := State.agrees_new .standard .new
  refine ⟨agrees, (switched_agrees_iff _ [false, false] agrees).1.mpr (Or.inr ⟨false, ?_⟩)⟩
  decide

/-- A call that switches a new examiner on and one that switches it off, each storing its switch before
either changes the session. -/
def crossed : Switching :=
  (begin (State.new .standard .new) [true, false]).interleave (crossing 0 1)

/-- **Two calls leave a switch in the session that a new one does not start with.** -/
theorem switched_apart :
    (State.new .standard .new).Agrees ∧ crossed.running = [none, none] ∧
      crossed.state.session.enabled = true ∧ crossed.state.restart.session.enabled = false := by
  refine ⟨State.agrees_new _ _, ?_, ?_, ?_⟩ <;> decide +kernel

end Switching

end CategoryFilter
