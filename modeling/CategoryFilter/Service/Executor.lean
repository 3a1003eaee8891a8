/-
The running service over time.

Time stands still while tasks run and moves only when all of them wait, then to the next time that one
waits for. Tasks that are ready run in the order in which they became ready; those that wait for the
same time, lock or permit go on in the order in which they began to wait.
-/

import CategoryFilter.Domain.Normal
import CategoryFilter.Schedule.Nightly
import CategoryFilter.Service.Channel
import CategoryFilter.Service.Task

namespace CategoryFilter

/-- Detections that a dispatcher runs at a time. -/
def maxDetections : Nat := 64

/-- The state of the service at a time. -/
structure Executor where
  /-- The time in milliseconds. -/
  now : Int
  zone : Zone
  /-- The examiner, with the session that is current. -/
  state : State
  /-- The number of the current session. -/
  current : Nat
  /-- Earlier sessions, which tasks may still belong to. -/
  retired : List (Nat × Session)
  services : Services
  /-- How long the local filter takes to answer. -/
  filterDelay : Nat
  /-- Tasks that are not finished. -/
  tasks : List Task
  /-- Tasks that can run, first come first. -/
  ready : List Nat
  /-- Finished tasks. -/
  results : List (Nat × TaskResult)
  /-- Locks that are held: of a category, for a session. -/
  locks : List (Nat × String)
  /-- Free permits of each dispatcher. -/
  permits : List (Nat × Nat)
  /-- The channels of events, by their number. -/
  channels : List Channel
  /-- The number for the next task or wait. -/
  fresh : Nat
  /-- The random numbers to come, by the number of the wait that they are drawn for. -/
  random : Nat → Nat

namespace Executor

/-- A service without tasks and with one channel. -/
def new (state : State) (services : Services) (filterDelay : Nat) (now : Int)
    (random : Nat → Nat) : Executor :=
  { now, zone := .utc, state, current := 0, retired := [], services, filterDelay, tasks := [],
    ready := [], results := [], locks := [], permits := [], channels := [Channel.new], fresh := 0,
    random }

/-- The time as a score. -/
def score (ex : Executor) : Score := Int64.ofInt ex.now

/-- The clock, which stands still. -/
def clock (ex : Executor) : Clock := fun _ => ex.score

/-- What an operation meets that does not wait. -/
def surroundings (ex : Executor) : Surroundings :=
  ⟨ex.services, ex.clock, ex.now, fun _ => ex.state.session.stopped⟩

/-! ### Sessions -/

/-- The session with a number. -/
def sessionAt (ex : Executor) (session : Nat) : Session :=
  if session = ex.current then ex.state.session
  else (ex.retired.lookup session).getD ex.state.session

/-- Do a part of an operation in a session. -/
def inSession {α : Type} (ex : Executor) (session : Nat) (part : State → State × α) :
    Executor × α :=
  if session = ex.current then
    let (s, a) := part ex.state
    ({ ex with state := s }, a)
  else
    let (s, a) := part { ex.state with session := ex.sessionAt session }
    ({ ex with
        state := { s with session := ex.state.session }
        retired := ex.retired.map fun r => if r.1 = session then (r.1, s.session) else r }, a)

/-- Begin a new session. Tasks of the old one go on in it. -/
def restart (ex : Executor) : Executor :=
  { ex with
    state := ex.state.restart
    current := ex.current + 1
    retired := ex.retired ++ [(ex.current, ex.state.session)] }

/-! ### Tasks -/

/-- The task with a number. -/
def task? (ex : Executor) (id : Nat) : Option Task :=
  ex.tasks.find? fun t => t.id = id

/-- Put a task in place of its earlier form. -/
def putTask (ex : Executor) (task : Task) : Executor :=
  { ex with tasks := ex.tasks.map fun t => if t.id = task.id then task else t }

/-- A new task of a session, ready to run after the others. -/
def spawn (ex : Executor) (session : Nat) (stage : Stage) (permit : Option Nat) : Executor × Nat :=
  let id := ex.fresh
  ({ ex with
      fresh := id + 1
      tasks := ex.tasks ++ [⟨id, session, stage, none, none, false, none, permit⟩]
      ready := ex.ready ++ [id] }, id)

/-- Let a waiting task run. -/
def wake (ex : Executor) (id : Nat) : Executor :=
  { ex with
    tasks := ex.tasks.map fun t => if t.id = id then { t with waiting := none } else t
    ready := ex.ready ++ [id] }

/-- The tasks whose wait satisfies a test, those first that began to wait first. -/
def waitingFor (ex : Executor) (test : Task → Wait → Bool) : List Nat :=
  let found := ex.tasks.filterMap fun t =>
    match t.waiting with
    | some (reason, turn) => if test t reason then some (turn, t.id) else none
    | none => none
  (found.mergeSort fun a b => a.1 ≤ b.1).map Prod.snd

/-- Let tasks run. -/
def wakeAll (ex : Executor) (ids : List Nat) : Executor :=
  ids.foldl wake ex

/-- Whether a wait ends with the shutdown. -/
def endsWithStop : Wait → Bool
  | .time _ orStop => orStop
  | .event _ | .permit => true
  | .lock _ => false

/-- Ask for the shutdown of the current session. -/
def stop (ex : Executor) : Executor :=
  let ex := { ex with
    state := { ex.state with session := { ex.state.session with stopped := true } } }
  ex.wakeAll (ex.waitingFor fun t reason => t.session = ex.current && endsWithStop reason)

/-! ### Locks, permits and channels -/

/-- Take the lock of a category, if it is free. -/
def tryLock (ex : Executor) (session : Nat) (category : String) : Executor × Bool :=
  if ex.locks.contains (session, category) then (ex, false)
  else ({ ex with locks := (session, category) :: ex.locks }, true)

/-- Give a lock back: to the first task that waits for it, if any does. -/
def unlock (ex : Executor) (session : Nat) (category : String) : Executor :=
  match ex.waitingFor fun t reason => t.session = session && reason = .lock category with
  | id :: _ => ex.wake id
  | [] => { ex with locks := ex.locks.erase (session, category) }

/-- The free permits of a dispatcher. -/
def freePermits (ex : Executor) (dispatcher : Nat) : Nat :=
  (ex.permits.lookup dispatcher).getD 0

/-- Set the free permits of a dispatcher. -/
def setPermits (ex : Executor) (dispatcher count : Nat) : Executor :=
  { ex with permits := ex.permits.map fun p => if p.1 = dispatcher then (p.1, count) else p }

/-- Give a permit back: to the dispatcher if it waits for one. -/
def returnPermit (ex : Executor) (dispatcher : Nat) : Executor :=
  match ex.waitingFor fun t reason => t.id = dispatcher && reason = .permit with
  | id :: _ => ex.wake id
  | [] => ex.setPermits dispatcher (ex.freePermits dispatcher + 1)

/-- A channel. -/
def channel (ex : Executor) (n : Nat) : Channel :=
  (ex.channels[n]?).getD ⟨[], 0, false, false⟩

/-- Change a channel. -/
def setChannel (ex : Executor) (n : Nat) (c : Channel) : Executor :=
  { ex with channels := ex.channels.set n c }

/-- Wake the task that waits for events of a channel. -/
def wakeReceiver (ex : Executor) (n : Nat) : Executor :=
  ex.wakeAll (ex.waitingFor fun _ reason => reason = .event n)

/-- Send an event to a channel that takes any: the number of those that were sent before it. -/
def send (ex : Executor) (n : Nat) (event : Event) : Executor × Option Nat :=
  let c := ex.channel n
  if c.accepts then ((ex.setChannel n (c.send event)).wakeReceiver n, some c.sent)
  else (ex, none)

/-- Nobody sends on a channel any more. -/
def dropSender (ex : Executor) (n : Nat) : Executor :=
  (ex.setChannel n { ex.channel n with isFed := false }).wakeReceiver n

/-- Nobody receives from a channel any more. -/
def closeChannel (ex : Executor) (n : Nat) : Executor :=
  ex.setChannel n (ex.channel n).close

/-- Take off everything that is on a channel. -/
def receiveAll (ex : Executor) (n : Nat) : Executor × List Event :=
  let (c, events) := (ex.channel n).receiveAll
  (ex.setChannel n c, events)

/-! ### Steps of a task -/

/-- Whether shutdown was asked for in the session of a task. -/
def isStopped (ex : Executor) (t : Task) : Bool :=
  (ex.sessionAt t.session).stopped

/-- Ask the local filter and go on with its answer. -/
def askFilter (ex : Executor) (request : FilterRequest) (stage : Stage) : Executor × Next :=
  let ex := { ex with state := ex.state.ask [.filter request] }
  (ex, if ex.filterDelay = 0 then .go stage
    else .wait stage (.time (ex.now + ex.filterDelay) false))

/-- The end of a refresh: its lock goes back, and a refresh of all takes the next turn. -/
def endRefresh (ex : Executor) (t : Task) (outcome : Except Failure (Option RefreshReport)) :
    Executor × Task × Next :=
  let ex := match t.lock with
    | some category => ex.unlock t.session category
    | none => ex
  let t := { t with lock := none }
  match t.turns with
  | none => (ex, t, .done (.refreshed outcome))
  | some (rest, reports) =>
    let reports := match outcome with
      | .ok (some report) => reports ++ [report]
      | _ => reports
    (ex, { t with turns := none }, .go (.turns rest reports))

/-- Check the next member of a refresh, or conclude it. -/
def checkNext (ex : Executor) (t : Task) (r : Refresh) : Executor × Task × Next :=
  match r.remaining with
  | [] =>
    let (ex, outcome) := ex.inSession t.session (·.concludeRefresh ex.services r)
    ex.endRefresh t (outcome.map some)
  | m :: _ =>
    if ex.isStopped t then
      let (ex, ()) := ex.inSession t.session fun s => (s.abandonRefresh r, ())
      ex.endRefresh t (.ok none)
    else
      let (ex, next) := ex.askFilter (Refresh.request r.category m.domain) (.checked r)
      (ex, t, next)

/-- The first part of a refresh that has its lock. -/
def stepLocked (ex : Executor) (t : Task) (category : String) : Executor × Task × Next :=
  let (ex, stage) := ex.inSession t.session (·.beginRefresh ex.clock category)
  match stage with
  | .error cause => ex.endRefresh t (.error cause)
  | .ok .skipped => ex.endRefresh t (.ok none)
  | .ok (.finished report) => ex.endRefresh t (.ok (some report))
  | .ok (.running r) => ex.checkNext t r

/-- The wait for the lock of a category. -/
def stepSettled (ex : Executor) (t : Task) (category : String) : Executor × Task × Next :=
  if ex.isStopped t then ex.endRefresh t (.ok none)
  else
    let t := { t with lock := some category }
    match ex.tryLock t.session category with
    | (ex, true) => (ex, t, .go (.locked category))
    | (ex, false) => (ex, t, .wait (.locked category) (.lock category))

/-- The beginning of a refresh. -/
def stepRefresh (ex : Executor) (t : Task) (category : String) : Executor × Task × Next :=
  if !(ex.sessionAt t.session).enabled then ex.endRefresh t (.ok none)
  else
    let delay := ex.state.config.settleDelay
    if delay = 0 then (ex, t, .go (.settled category))
    else (ex, t, .wait (.settled category) (.time (ex.now + delay) true))

/-- The end of a dispatcher, which receives no more. -/
def endDispatcher (ex : Executor) (t : Task) (n : Nat) : Executor × Task × Next :=
  (ex.closeChannel n, t, .done .stopped)

/-- A dispatcher's next event. Detections become tasks of their own, each with a permit; the others are
handled at once. -/
def stepDispatching (ex : Executor) (t : Task) (n : Nat) : Executor × Task × Next :=
  let c := ex.channel n
  if ex.isStopped t then ex.endDispatcher t n
  else
    match c.events with
    | [] =>
      if c.isFed then (ex, t, .wait (.dispatching n) (.event n)) else ex.endDispatcher t n
    | event :: rest =>
      let ex := ex.setChannel n (c.receive rest)
      match event with
      | .domainDetected _ =>
        let free := ex.freePermits t.id
        if free = 0 then (ex, t, .wait (.permitted n event) .permit)
        else (ex.setPermits t.id (free - 1), t, .go (.permitted n event))
      | .filterUpdated category =>
        ((ex.spawn t.session (.refresh category) none).1, t, .go (.dispatching n))
      | .categoryDeactivated category =>
        let (ex, _) := ex.inSession t.session (·.deactivate category)
        (ex, t, .go (.dispatching n))

/-- One step of a task. -/
def step (ex : Executor) (t : Task) : Executor × Task × Next :=
  match t.stage with
  | .detect origin =>
    match ex.inSession t.session (·.admits origin ex.now) with
    | (ex, true) =>
      let (ex, next) := ex.askFilter (State.detectionRequest origin) (.filtered origin)
      (ex, t, next)
    | (ex, false) => (ex, t, .done (.detected 0))
  | .filtered origin =>
    let answer := ex.services.checkFilter (State.detectionRequest origin)
    let (ex, count) := ex.inSession t.session (·.receiveFilter ex.clock origin answer)
    (ex, t, .done (.detected count))
  | .confirm =>
    let (ex, report) := ex.inSession t.session (·.confirmQueued ex.services ex.clock)
    (ex, t, .done (.confirmed report))
  | .refresh category => ex.stepRefresh t category
  | .settled category => ex.stepSettled t category
  | .locked category => ex.stepLocked t category
  | .checked r =>
    match r.remaining with
    | [] => ex.checkNext t r
    | m :: _ =>
      let answer := ex.services.checkFilter (Refresh.request r.category m.domain)
      ex.checkNext t (r.note answer)
  | .refreshAll => (ex, t, .go (.turns ex.state.registry.activeCategories []))
  | .turns rest reports =>
    match rest with
    | category :: rest =>
      if ex.isStopped t then (ex, t, .go (.turns [] reports))
      else (ex, { t with turns := some (rest, reports) }, .go (.refresh category))
    | [] => (ex, t, if t.isNightly then .go .night else .done (.refreshedAll reports))
  | .ticking =>
    let period := ex.state.config.confirmInterval
    if period = 0 then (ex, t, .done .stopped)
    else (ex, t, .wait (.tick (ex.now + period)) (.time (ex.now + period) true))
  | .tick due =>
    if ex.isStopped t then (ex, t, .done .stopped)
    else
      let (ex, _) := ex.inSession t.session (·.confirmQueued ex.services ex.clock)
      let due := due + ex.state.config.confirmInterval
      (ex, t, .wait (.tick due) (.time due true))
  | .night =>
    match nextNightly? ex.zone ex.now ex.state.config.refreshHour.toNat with
    | some due =>
      if ex.isStopped t then (ex, t, .done .stopped)
      else
        let due := due + jitterDelay ex.state.config.refreshJitter (ex.random ex.fresh)
        (ex, { t with isNightly := true }, .wait .nightly (.time due true))
    | none => (ex, t, .done .stopped)
  | .nightly => (ex, t, if ex.isStopped t then .done .stopped else .go .refreshAll)
  | .dispatching n => ex.stepDispatching t n
  | .permitted n event =>
    match event with
    | .domainDetected raw =>
      if ex.isStopped t then ex.endDispatcher t n
      else
        let ex := match Domain.normalize raw with
          | some domain => (ex.spawn t.session (.detect domain) (some t.id)).1
          | none => ex.setPermits t.id (ex.freePermits t.id + 1)
        (ex, t, .go (.dispatching n))
    | _ => (ex, t, .go (.dispatching n))

/-! ### Runs -/

/-- A task waits, behind those that wait already. -/
def park (ex : Executor) (t : Task) (stage : Stage) (reason : Wait) : Executor :=
  { ex.putTask { t with stage := stage, waiting := some (reason, ex.fresh) } with
    fresh := ex.fresh + 1 }

/-- The end of a task: its result stays, and its permit goes back. -/
def finish (ex : Executor) (t : Task) (result : TaskResult) : Executor :=
  let ex := { ex with
    tasks := ex.tasks.filter fun other => other.id != t.id
    results := ex.results ++ [(t.id, result)] }
  match t.permit with
  | some dispatcher => ex.returnPermit dispatcher
  | none => ex

/-- More steps than a run takes. -/
def stepBound : Nat := 1000000000000

/-- Run a task until it waits or is finished. -/
def runTask (fuel : Nat) (ex : Executor) (t : Task) : Executor :=
  match fuel with
  | 0 => ex
  | fuel + 1 =>
    match ex.step t with
    | (ex, t, .go stage) => runTask fuel ex { t with stage := stage }
    | (ex, t, .wait stage reason) => ex.park t stage reason
    | (ex, t, .done result) => ex.finish t result

/-- Run the first task that is ready. -/
def runFirst (ex : Executor) : Executor :=
  match ex.ready with
  | [] => ex
  | id :: rest =>
    let ex := { ex with ready := rest }
    match ex.task? id with
    | some t => runTask stepBound ex t
    | none => ex

/-- Run tasks until all of them wait. -/
def runReady (fuel : Nat) (ex : Executor) : Executor :=
  match fuel with
  | 0 => ex
  | fuel + 1 => if ex.ready.isEmpty then ex else runReady fuel ex.runFirst

/-- The next time that a task waits for. -/
def nextDue? (ex : Executor) : Option Int :=
  (ex.tasks.filterMap fun t =>
    match t.waiting with
    | some (.time due _, _) => some due
    | _ => none).min?

/-- Move time on and let those run that waited for it, one of them before the others. -/
def moveTo (ex : Executor) (due : Int) (first : Option Nat) : Executor :=
  let ex := { ex with now := due }
  let woken := ex.waitingFor fun _ reason =>
    match reason with
    | .time d _ => d ≤ due
    | _ => false
  let (before, after) := woken.partition fun id => some id == first
  ex.wakeAll (before ++ after)

/-- Let time pass up to a target, which is reached but not worked on. -/
def sleepTo (fuel : Nat) (ex : Executor) (target : Int) : Executor :=
  match fuel with
  | 0 => { ex with now := target }
  | fuel + 1 =>
    let ex := runReady stepBound ex
    match ex.nextDue? with
    | some due =>
      if due < target then sleepTo fuel (ex.moveTo due none) target else { ex with now := target }
    | none => { ex with now := target }

/-- Let some milliseconds pass. -/
def sleep (ex : Executor) (millis : Nat) : Executor :=
  sleepTo stepBound ex (ex.now + millis)

/-- The result of a task, if it is finished. -/
def result? (ex : Executor) (id : Nat) : Option TaskResult :=
  ex.results.lookup id

/-- Run tasks and let time pass until a task is finished, or nothing can happen any more. -/
def runUntilDone (fuel : Nat) (ex : Executor) (id : Nat) : Executor :=
  match fuel with
  | 0 => ex
  | fuel + 1 =>
    if (ex.result? id).isSome then ex
    else if ex.ready.isEmpty then
      match ex.nextDue? with
      | some due => runUntilDone fuel (ex.moveTo due (some id)) id
      | none => ex
    else runUntilDone fuel ex.runFirst id

/-- Wait for a task of its own right: those that became ready with its end run as well. -/
def await (ex : Executor) (id : Nat) : Executor × Option TaskResult :=
  let ex := runUntilDone stepBound ex id
  let result := ex.result? id
  (runReady stepBound { ex with results := ex.results.filter fun r => r.1 != id }, result)

/-- Do an operation at once, before any task that is ready, and wait for its end. -/
def perform (ex : Executor) (stage : Stage) : Executor × Option TaskResult :=
  let (ex, id) := ex.spawn ex.current stage none
  let ex := { ex with ready := id :: ex.ready.filter (· != id) }
  let ex := runUntilDone stepBound ex id
  ({ ex with results := ex.results.filter fun r => r.1 != id }, ex.result? id)

/-- Begin an operation as a task and let all tasks run until they wait. -/
def start (ex : Executor) (stage : Stage) : Executor × Nat :=
  let (ex, id) := ex.spawn ex.current stage none
  (runReady stepBound ex, id)

/-- A dispatcher of a channel. -/
def spawnDispatcher (ex : Executor) (n : Nat) : Executor × Nat :=
  let (ex, id) := ex.spawn ex.current (.dispatching n) none
  ({ ex with permits := ex.permits ++ [(id, maxDetections)] }, id)

/-- React to an event, and say whether that was a refresh. -/
def handleEvent (ex : Executor) (event : Event) : Executor × Bool :=
  match event with
  | .domainDetected raw =>
    match Domain.normalize raw with
    | some domain => ((ex.perform (.detect domain)).1, false)
    | none => (ex, false)
  | .filterUpdated category =>
    let (ex, id) := ex.spawn ex.current (.refresh category) none
    ((ex.await id).1, true)
  | .categoryDeactivated category =>
    ((ex.inSession ex.current (·.deactivate category)).1, false)

/-- The loops of a started service, and the channel that feeds it. -/
structure Loops where
  channel : Nat
  tasks : List Nat

/-- Start the loops of the service: confirmation, nightly refresh and a dispatcher of a new channel. -/
def startService (ex : Executor) : Executor × Loops :=
  let n := ex.channels.length
  let ex := { ex with channels := ex.channels ++ [Channel.new] }
  let (ex, confirm) := ex.spawn ex.current .ticking none
  let (ex, nightly) := ex.spawn ex.current .night none
  let (ex, dispatcher) := ex.spawnDispatcher n
  (ex, ⟨n, [confirm, nightly, dispatcher]⟩)

/-- Stop a started service and wait for its loops. -/
def shutdown (ex : Executor) (loops : Loops) : Executor :=
  loops.tasks.foldl (fun ex id => (ex.await id).1) ex.stop

end Executor

end CategoryFilter
