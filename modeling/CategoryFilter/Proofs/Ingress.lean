/-
**What is accepted is what is examined.**

A name is normalized twice, when an event is accepted and when the event is handled. The second time
changes nothing, so the name that was accepted is the one that is examined:

* `Ingress.receive_eq_send_iff`: which event is sent to the channel, by the body of the request.
* `Progress.answer?_run`, `Progress.entered_iff_of_answer?`: what an answer tells that comes later.
* `Executor.Handled`: a queued detection is handled as the one that was posted would be, and to handle it is
  to detect its name.
* `Executor.Served`: an answer of 202 stands for one event more on the channel, any other answer for none, at
  once and later.
* `serve_posts`: that is so for all that is posted to the endpoints for events.
* `interchangeable`: a report and a detection of the same raw name come to the same.
* `ingress_agrees`: these together, for every raw name and every body that reaches an endpoint.

How the library below the interface reads bodies is a parameter of all that (`Intake.Sound`).
-/

import CategoryFilter.Proofs.Codecs
import CategoryFilter.Proofs.NormalName
import CategoryFilter.Proofs.Service.Detection
import CategoryFilter.Store.Schema

namespace CategoryFilter

/-! ### The endpoints for events -/

/-- An endpoint that takes events. -/
inductive Endpoint where
  /-- Takes bare reports of detected names. -/
  | reports
  /-- Takes events with their kind. -/
  | events

namespace Endpoint

def path : Endpoint → String
  | .reports => "/api/events/match"
  | .events => "/api/events"

/-- The event in a body. -/
def read : Endpoint → ByteArray → Except ApiError Event
  | .reports => Ingress.matchEvent
  | .events => Ingress.taggedEvent

end Endpoint

/-- A request that posts to an endpoint, whatever its query. -/
structure HttpRequest.Posts (r : HttpRequest) (endpoint : Endpoint) : Prop where
  method : r.method = "POST"
  path : String.ofList (r.path.toList.takeWhile (· != '?')) = endpoint.path

/-- A request that posts a JSON value to an endpoint, however its text is laid out. -/
structure HttpRequest.Carries (r : HttpRequest) (endpoint : Endpoint) (j : Json) : Prop
    extends r.Posts endpoint where
  body : Json.readBytes r.body = some j

/-- Post a JSON value in its shortest text. -/
def HttpRequest.post (endpoint : Endpoint) (j : Json) : HttpRequest :=
  ⟨"POST", endpoint.path, none, j.render.toUTF8⟩

/-- Report a name. -/
def HttpRequest.report (raw : String) : HttpRequest := .post .reports (MatchReport.toJson ⟨raw⟩)

/-- Post an event with the detection of a name. -/
def HttpRequest.detection (raw : String) : HttpRequest := .post .events (Event.domainDetected raw).toJson

variable {ex : Executor} {endpoint : Endpoint} {r : HttpRequest} {event : Event} {n : Nat} {j : Json}

theorem carries_post (writable : j.Writable 0) : (HttpRequest.post endpoint j).Carries endpoint j := by
  refine ⟨⟨rfl, ?_⟩, Json.readBytes_render writable⟩
  show String.ofList (endpoint.path.toList.takeWhile _) = endpoint.path
  cases endpoint <;> decide

/-- The library hands over the body of a request as it is, or answers with an error. -/
structure Intake.Sound (intake : Intake) : Prop where
  whole : ∀ r body, intake r = .ok body → body = r.body
  failure : ∀ r status, intake r = .error status → 400 ≤ status

theorem Intake.sound_standard : Intake.standard.Sound := by
  constructor
  · intro r body taken
    unfold standard at taken
    split at taken
    · exact (Except.ok.inj taken).symm
    · cases taken
  · intro r status refused
    unfold standard at refused
    split at refused
    · cases refused
    · exact Except.error.inj refused ▸ (by decide)

/-- The library hands over the bodies of both requests, or answers both with the same status. -/
def Intake.Alike (intake : Intake) (r other : HttpRequest) : Prop :=
  (intake r).map (fun _ => ()) = (intake other).map fun _ => ()

theorem Intake.alike_of_ok {intake : Intake} {other : HttpRequest} (whole : intake r = .ok r.body)
    (whole' : intake other = .ok other.body) : intake.Alike r other := by
  unfold Alike
  rw [whole, whole']
  rfl

theorem ApiError.status_ne_accepted (e : ApiError) : e.status ≠ 202 := by
  cases e <;> simp [status]

namespace Ingress

theorem status_accepted (event : Event) : (accepted event).status = 202 := rfl

variable {intake : Intake} {read : ByteArray → Except ApiError Event} {response : HttpResponse}

theorem handle_posts (posts : r.Posts endpoint) (intake : Intake) (s : State) (now : Score) :
    handle intake s now r = (s, receive intake endpoint.read r) := by
  unfold handle
  dsimp only
  rw [posts.path]
  cases endpoint with
  | reports => simp [Endpoint.path, Endpoint.read, posts.method]
  | events => simp [Endpoint.path, Endpoint.read, posts.method]

theorem read_report {report : MatchReport} (carries : r.Carries .reports report.toJson) :
    Endpoint.reports.read r.body = .ok report.toEvent := by
  show matchEvent r.body = _
  unfold matchEvent
  rw [carries.body, Option.bind_some, report.ofJson?_toJson]

theorem read_event (carries : r.Carries .events event.toJson) :
    Endpoint.events.read r.body = .ok event := by
  show taggedEvent r.body = _
  unfold taggedEvent
  rw [carries.body, Option.bind_some, event.ofJson?_toJson]

/-- What is sent for an event that was read: a detection with the normal form of its name, an event about a
category as it is if the category has a name. -/
inductive Enters : Event → Event → Prop
  | detection {raw t : String} (normal : Domain.normalize raw = some t) :
      Enters (.domainDetected raw) (.domainDetected t)
  | update {category : String} (named : category ≠ "") :
      Enters (.filterUpdated category) (.filterUpdated category)
  | deactivation {category : String} (named : category ≠ "") :
      Enters (.categoryDeactivated category) (.categoryDeactivated category)

theorem accept_eq_ok_iff {own : Event} : accept own = .ok event ↔ Enters own event := by
  constructor
  · intro accepted
    cases own with
    | domainDetected raw =>
      unfold accept at accepted
      dsimp only at accepted
      split at accepted
      · next normal =>
        cases accepted
        exact .detection normal
      · cases accepted
    | filterUpdated category | categoryDeactivated category =>
      unfold accept at accepted
      dsimp only at accepted
      split at accepted
      · cases accepted
      · next named =>
        cases accepted
        constructor
        exact mt String.isEmpty_iff.mpr named
  · rintro (normal | named | named)
    · unfold accept
      dsimp only
      rw [normal]
    · exact if_neg (mt String.isEmpty_iff.mp named)
    · exact if_neg (mt String.isEmpty_iff.mp named)

theorem submit_eq_send_iff {read : Except ApiError Event} :
    submit read = .send event ↔ ∃ own, read = .ok own ∧ Enters own event := by
  have submitted : submit read = .send event ↔ read.bind accept = .ok event := by
    unfold submit
    rcases read.bind accept with cause | accepted
    · exact ⟨nofun, nofun⟩
    · exact ⟨fun same => congrArg _ (Reaction.send.inj same), fun same => congrArg _ (Except.ok.inj same)⟩
  rw [submitted]
  rcases read with cause | own
  · constructor
    · nofun
    · rintro ⟨own, impossible, -⟩
      cases impossible
  · show accept own = .ok event ↔ _
    rw [accept_eq_ok_iff]
    constructor
    · exact fun enters => ⟨own, rfl, enters⟩
    · rintro ⟨_, same, enters⟩
      cases same
      exact enters

/-- **Which event is sent.** -/
theorem receive_eq_send_iff (sound : intake.Sound) : receive intake read r = .send event ↔
    ∃ own, intake r = .ok r.body ∧ read r.body = .ok own ∧ Enters own event := by
  unfold receive
  cases taken : intake r with
  | error status =>
    constructor
    · nofun
    · rintro ⟨own, impossible, -⟩
      cases impossible
  | ok body =>
    obtain rfl := sound.whole r body taken
    dsimp only
    rw [submit_eq_send_iff]
    exact exists_congr fun own => (and_iff_right rfl).symm

/-- A request whose event is not sent is not accepted. -/
theorem status_ne_accepted (sound : intake.Sound) (answered : receive intake read r = .answer response) :
    response.status ≠ 202 := by
  unfold receive at answered
  split at answered
  · next status refused =>
    cases answered
    have failure := sound.failure r status refused
    show status ≠ 202
    omega
  · unfold submit at answered
    split at answered
    · next cause _ =>
      cases answered
      exact cause.status_ne_accepted
    · cases answered

/-- Two requests with events that are sent alike come to the same. -/
theorem receive_congr (sound : intake.Sound) {other : HttpRequest} (alike : intake.Alike r other)
    {read' : ByteArray → Except ApiError Event} (same : submit (read r.body) = submit (read' other.body)) :
    receive intake read r = receive intake read' other := by
  unfold Intake.Alike at alike
  unfold receive
  cases taken : intake r with
  | error status =>
    rw [taken] at alike
    cases taken' : intake other with
    | error status' =>
      rw [taken'] at alike
      rw [Except.error.inj alike]
    | ok body =>
      rw [taken'] at alike
      cases alike
  | ok body =>
    rw [taken] at alike
    cases taken' : intake other with
    | error status =>
      rw [taken'] at alike
      cases alike
    | ok body' =>
      rw [sound.whole r body taken, sound.whole other body' taken']
      exact same

end Ingress

/-! ### Answers that may be late -/

namespace Progress

open Relation (ReflTransGen)

variable {c c' c'' : Channel} {number : Nat} {response : HttpResponse}

theorem answer?_answered (c : Channel) (response : HttpResponse) :
    (Progress.answered response).answer? c = some response := rfl

theorem answer?_put (put : c.fate number = .put) :
    (Progress.sent event number).answer? c = some (Ingress.accepted event) := by
  unfold answer?
  dsimp only
  rw [put]

theorem answer?_waits (waits : c.Waits number event) : (Progress.sent event number).answer? c = none := by
  unfold answer?
  dsimp only
  rw [waits.fate_eq]

theorem answer?_refused (refuses : c.Refuses number) :
    (Progress.sent event number).answer? c = some ApiError.unavailable.respond := by
  unfold answer?
  dsimp only
  rw [refuses.fate_eq]

/-- An answer at once tells that the event is on the channel, -/
theorem accepted_of_answer? (accepts : c.accepts = true)
    (answered : (Progress.sent event c.sent).answer? (c.send event) = some response) :
    response = Ingress.accepted event ∧ (c.send event).held = c.held ++ [event] := by
  rcases Channel.fate_send accepts event with ⟨put, held⟩ | ⟨waits, -⟩
  · rw [answer?_put put] at answered
    exact ⟨(Option.some.inj answered).symm, held⟩
  · rw [answer?_waits waits] at answered
    cases answered

/-- and no answer that it waits. -/
theorem waits_of_answer? (accepts : c.accepts = true)
    (unanswered : (Progress.sent event c.sent).answer? (c.send event) = none) :
    (c.send event).held = c.held ∧ (c.send event).Waits c.sent event := by
  rcases Channel.fate_send accepts event with ⟨put, -⟩ | ⟨waits, held⟩
  · rw [answer?_put put] at unanswered
    cases unanswered
  · exact ⟨held, waits⟩

/-- An answer stays. -/
theorem answer?_run (accepts : c.accepts = true) (begun : ReflTransGen Channel.Step (c.send event) c')
    (onward : ReflTransGen Channel.Step c' c'')
    (answered : (Progress.sent event c.sent).answer? c' = some response) :
    (Progress.sent event c.sent).answer? c'' = some response := by
  rcases Channel.fate_send_run accepts event begun with put | waits | refuses
  · rw [← answered, answer?_put put, answer?_put (Channel.fate_run put onward)]
  · rw [answer?_waits waits] at answered
    cases answered
  · rw [← answered, answer?_refused refuses, answer?_refused (refuses.run onward)]

/-- A late answer tells whether the event has come onto the channel. -/
theorem entered_iff_of_answer? (waits : c.Waits number event) (run : ReflTransGen Channel.Step c c')
    (answered : (Progress.sent event number).answer? c' = some response) :
    response.status = 202 ↔ c.Entered number event c' := by
  rcases waits.run run with waits' | entered | refuses
  · rw [answer?_waits waits'] at answered
    cases answered
  · rw [answer?_put entered.fate_eq] at answered
    cases answered
    exact iff_of_true (Ingress.status_accepted event) entered
  · rw [answer?_refused refuses] at answered
    cases answered
    refine iff_of_false (ApiError.status_ne_accepted .unavailable) fun entered => ?_
    exact Channel.Fate.noConfusion (entered.fate_eq.symm.trans refuses.fate_eq)

end Progress

/-! ### Handling -/

namespace Executor

open Relation (ReflTransGen)

/-- **A detection of `t` is handled as one of `raw` is**: `t` is detected. -/
structure Handled (raw t : String) : Prop where
  normal : Domain.normalize raw = some t
  stays : Domain.normalize t = some t
  /-- To handle either is to perform a detection of `t`, -/
  handled : ∀ ex : Executor, ∀ name ∈ [raw, t],
    ex.handleEvent (.domainDetected name) = ((ex.perform (.detect t)).1, false)
  /-- which leads to the state after its detection by the examiner. -/
  detected : ∀ ex : Executor, ex.Tidy → ex.filterDelay = 0 → ∀ name ∈ [raw, t],
    ex.handleEvent (.domainDetected name) =
      ({ ex with state := (ex.state.detect ex.surroundings t).1, fresh := ex.fresh + 1 }, false)
  /-- The dispatcher that comes to either begins a task that detects `t`, once it has a permit. -/
  dispatched : ∀ (ex : Executor) (d : Task) (n fuel : Nat) (rest : List Event), ∀ name ∈ [raw, t],
    d.stage = .dispatching n → ex.isStopped d = false →
      (ex.channel n).events = .domainDetected name :: rest → ex.freePermits d.id ≠ 0 →
        runTask (fuel + 2) ex d =
          runTask fuel
            ((((ex.setChannel n ((ex.channel n).receive rest)).setPermits d.id
              (ex.freePermits d.id - 1)).spawn d.session (.detect t) (some d.id)).1) d
  /-- Also if it had to wait for the permit. -/
  permitted : ∀ (ex : Executor) (d : Task) (n : Nat), ∀ name ∈ [raw, t],
    d.stage = .permitted n (.domainDetected name) → ex.isStopped d = false →
      ex.step d = ((ex.spawn d.session (.detect t) (some d.id)).1, d, .go (.dispatching n))
  /-- An operation or a task that detects `t` does what the examiner does. -/
  examined : Examines t

section Detections

variable {name t : String} {d : Task} (normal : Domain.normalize name = some t)

include normal

theorem handleEvent_detection (ex : Executor) :
    ex.handleEvent (.domainDetected name) = ((ex.perform (.detect t)).1, false) := by
  unfold handleEvent
  dsimp only
  rw [normal]

/-- The dispatcher begins to detect what it holds when it has a permit. -/
theorem step_permitted (stage : d.stage = .permitted n (.domainDetected name))
    (running : ex.isStopped d = false) :
    ex.step d = ((ex.spawn d.session (.detect t) (some d.id)).1, d, .go (.dispatching n)) := by
  unfold step
  rw [stage]
  dsimp only
  rw [running, normal]
  rfl

/-- It receives a detection, takes a permit that is free and begins. -/
theorem runTask_dispatching {rest : List Event} (fuel : Nat) (stage : d.stage = .dispatching n)
    (running : ex.isStopped d = false) (line : (ex.channel n).events = .domainDetected name :: rest)
    (free : ex.freePermits d.id ≠ 0) :
    runTask (fuel + 2) ex d =
      runTask fuel
        ((((ex.setChannel n ((ex.channel n).receive rest)).setPermits d.id
          (ex.freePermits d.id - 1)).spawn d.session (.detect t) (some d.id)).1) d := by
  let taken := (ex.setChannel n ((ex.channel n).receive rest)).setPermits d.id (ex.freePermits d.id - 1)
  have received : ex.step d = (taken, d, .go (.permitted n (.domainDetected name))) := by
    unfold step
    rw [stage]
    dsimp only
    unfold stepDispatching
    dsimp only
    rw [running, line]
    exact if_neg free
  have going : taken.isStopped { d with stage := .permitted n (.domainDetected name) } = false := running
  rw [runTask, received]
  dsimp only
  rw [runTask, step_permitted normal rfl going]
  dsimp only
  rw [← stage]

end Detections

theorem handled_of_normalize {raw t : String} (normal : Domain.normalize raw = some t) :
    Handled raw t := by
  have stays := Domain.normalize_normalize normal
  have named : ∀ name ∈ [raw, t], Domain.normalize name = some t := by
    intro name listed
    rcases List.mem_cons.mp listed with rfl | listed
    · exact normal
    · rw [List.mem_singleton.mp listed]
      exact stays
  refine ⟨normal, stays, fun ex name listed => handleEvent_detection (named name listed) ex, ?_, ?_, ?_,
    examines t⟩
  · intro ex tidy prompt name listed
    rw [handleEvent_detection (named name listed), perform_detect tidy prompt t]
  · exact fun ex d n fuel rest name listed => runTask_dispatching (named name listed) fuel
  · exact fun ex d n name listed => step_permitted (named name listed)

/-! ### Answers -/

variable {intake : Intake}

/-- A channel that accepts exists. -/
theorem lt_of_accepts (accepts : (ex.channel n).accepts = true) : n < ex.channels.length := by
  refine (Nat.lt_or_ge n ex.channels.length).resolve_right fun beyond => ?_
  unfold channel at accepts
  rw [List.getElem?_eq_none beyond] at accepts
  cases accepts

theorem channel_send (accepts : (ex.channel n).accepts = true) (event : Event) :
    (ex.send n event).1.channel n = (ex.channel n).send event := by
  unfold send
  dsimp only
  rw [if_pos accepts]
  unfold wakeReceiver channel
  dsimp only
  rw [channels_wakeAll]
  exact channel_setChannel (lt_of_accepts accepts) _

theorem serve_of_answer (posts : r.Posts endpoint) {response : HttpResponse}
    (answered : Ingress.receive intake endpoint.read r = .answer response) :
    ex.serve intake n r = (ex, .answered response) := by
  unfold serve
  rw [Ingress.handle_posts posts, answered]

theorem serve_of_send (accepts : (ex.channel n).accepts = true) (posts : r.Posts endpoint)
    (sent : Ingress.receive intake endpoint.read r = .send event) :
    ex.serve intake n r = ((ex.send n event).1, .sent event (ex.channel n).sent) := by
  unfold serve
  rw [Ingress.handle_posts posts, sent]
  unfold send
  dsimp only
  rw [if_pos accepts]

/-- **What an answer stands for** at a channel that accepts. -/
structure Served (ex : Executor) (intake : Intake) (n : Nat) (endpoint : Endpoint) (r : HttpRequest) :
    Prop where
  /-- The event in the body is sent as what it enters as. -/
  sent : ∀ event, ((ex.serve intake n r).1.channel n).events = (ex.channel n).events ++ [event] ↔
    ∃ own, intake r = .ok r.body ∧ endpoint.read r.body = .ok own ∧ Ingress.Enters own event
  /-- An answer at once is 202 exactly if one event was put on the channel, -/
  accepted : ∀ response,
    (ex.serve intake n r).2.answer? ((ex.serve intake n r).1.channel n) = some response →
      (response.status = 202 ↔
        ∃ event, ((ex.serve intake n r).1.channel n).held = (ex.channel n).held ++ [event])
  /-- and with any other answer nothing changes. -/
  refused : ∀ response,
    (ex.serve intake n r).2.answer? ((ex.serve intake n r).1.channel n) = some response →
      response.status ≠ 202 → (ex.serve intake n r).1 = ex
  /-- There is none at once if the channel is full, so that an event waits for room. -/
  waits : (ex.serve intake n r).2.answer? ((ex.serve intake n r).1.channel n) = none →
    ∃ event number, (ex.serve intake n r).2 = .sent event number ∧
      ((ex.serve intake n r).1.channel n).held = (ex.channel n).held ∧
        ((ex.serve intake n r).1.channel n).Waits number event
  /-- Whatever the service comes to, an answer stays, -/
  stays : ∀ other, ReflTransGen Operates (ex.serve intake n r).1 other →
    ∀ further, ReflTransGen Operates other further → ∀ response,
      (ex.serve intake n r).2.answer? (other.channel n) = some response →
        (ex.serve intake n r).2.answer? (further.channel n) = some response
  /-- and a later one is 202 exactly if the event has come onto the channel. -/
  later : ∀ other, ReflTransGen Operates (ex.serve intake n r).1 other → ∀ event number,
    (ex.serve intake n r).2 = .sent event number →
      ((ex.serve intake n r).1.channel n).Waits number event → ∀ response,
        (ex.serve intake n r).2.answer? (other.channel n) = some response →
          (response.status = 202 ↔
            ((ex.serve intake n r).1.channel n).Entered number event (other.channel n))
  /-- A detection that is sent is handled as the one in the body would be. -/
  detection : ∀ t,
    ((ex.serve intake n r).1.channel n).events = (ex.channel n).events ++ [.domainDetected t] →
      ∃ raw, endpoint.read r.body = .ok (.domainDetected raw) ∧ Handled raw t

/-- The event of a request is sent if it is one that enters. -/
theorem gains_iff (accepts : (ex.channel n).accepts = true) (posts : r.Posts endpoint) (event : Event) :
    ((ex.serve intake n r).1.channel n).events = (ex.channel n).events ++ [event] ↔
      Ingress.receive intake endpoint.read r = .send event := by
  cases reaction : Ingress.receive intake endpoint.read r with
  | answer response =>
    rw [serve_of_answer posts reaction]
    simp
  | send own =>
    rw [serve_of_send accepts posts reaction]
    dsimp only
    rw [channel_send accepts]
    unfold Channel.send
    simp

theorem sent_iff (sound : intake.Sound) (accepts : (ex.channel n).accepts = true) (posts : r.Posts endpoint)
    (event : Event) : ((ex.serve intake n r).1.channel n).events = (ex.channel n).events ++ [event] ↔
      ∃ own, intake r = .ok r.body ∧ endpoint.read r.body = .ok own ∧ Ingress.Enters own event :=
  (gains_iff accepts posts event).trans (Ingress.receive_eq_send_iff sound)

/-- A detection that is sent is that of a name in normal form. -/
theorem handled_of_sent (sound : intake.Sound) (accepts : (ex.channel n).accepts = true)
    (posts : r.Posts endpoint) {t : String}
    (there : ((ex.serve intake n r).1.channel n).events = (ex.channel n).events ++ [.domainDetected t]) :
    ∃ raw, endpoint.read r.body = .ok (.domainDetected raw) ∧ Handled raw t := by
  obtain ⟨own, -, read, normal⟩ := (sent_iff sound accepts posts _).mp there
  cases normal with
  | detection normal => exact ⟨_, read, handled_of_normalize normal⟩

/-- What is answered without an event is served. -/
theorem served_of_answer (sound : intake.Sound) (accepts : (ex.channel n).accepts = true)
    (posts : r.Posts endpoint) {own : HttpResponse}
    (reaction : Ingress.receive intake endpoint.read r = .answer own) : Served ex intake n endpoint r := by
  have other := Ingress.status_ne_accepted sound reaction
  have served : ex.serve intake n r = (ex, .answered own) := serve_of_answer posts reaction
  have answered : (ex.serve intake n r).2 = .answered own := congrArg Prod.snd served
  have same : (ex.serve intake n r).1 = ex := congrArg Prod.fst served
  refine ⟨sent_iff sound accepts posts, ?_, fun _ _ _ => same, ?_, ?_, ?_,
    fun t => handled_of_sent sound accepts posts⟩
  · intro response there
    rw [answered, Progress.answer?_answered] at there
    obtain rfl := Option.some.inj there
    refine iff_of_false other ?_
    rintro ⟨event, grown⟩
    rw [same] at grown
    exact List.cons_ne_nil _ _ (List.self_eq_append_right.mp grown)
  · intro unanswered
    rw [answered, Progress.answer?_answered] at unanswered
    cases unanswered
  · intro later _ further _ response there
    rw [answered, Progress.answer?_answered] at there ⊢
    exact there
  · intro later _ event number sent
    rw [answered] at sent
    cases sent

/-- What sends an event is served. -/
theorem served_of_send (sound : intake.Sound) (accepts : (ex.channel n).accepts = true)
    (posts : r.Posts endpoint) (reaction : Ingress.receive intake endpoint.read r = .send event) :
    Served ex intake n endpoint r := by
  have served : ex.serve intake n r = ((ex.send n event).1, .sent event (ex.channel n).sent) :=
    serve_of_send accepts posts reaction
  have progress : (ex.serve intake n r).2 = .sent event (ex.channel n).sent := congrArg Prod.snd served
  have after : (ex.serve intake n r).1 = (ex.send n event).1 := congrArg Prod.fst served
  have channel : (ex.serve intake n r).1.channel n = (ex.channel n).send event :=
    (congrArg (·.channel n) after).trans (channel_send accepts event)
  have there : n < (ex.serve intake n r).1.channels.length := by
    rw [after]
    exact ((Continues.send ex n event).channels n (lt_of_accepts accepts)).1
  have run : ∀ later, ReflTransGen Operates (ex.serve intake n r).1 later → n < later.channels.length ∧
      ReflTransGen Channel.Step ((ex.channel n).send event) (later.channel n) := by
    intro later operates
    rw [← channel]
    exact (continues_of_operates operates).channels n there
  refine ⟨sent_iff sound accepts posts, ?_, ?_, ?_, ?_, ?_, fun t => handled_of_sent sound accepts posts⟩
  · rw [channel, progress]
    intro response answered
    obtain ⟨rfl, held⟩ := Progress.accepted_of_answer? accepts answered
    exact iff_of_true (Ingress.status_accepted event) ⟨event, held⟩
  · rw [channel, progress]
    intro response answered other
    obtain ⟨rfl, -⟩ := Progress.accepted_of_answer? accepts answered
    exact absurd (Ingress.status_accepted event) other
  · rw [channel, progress]
    exact fun unanswered => ⟨event, _, rfl, Progress.waits_of_answer? accepts unanswered⟩
  · intro later operates further goes response answered
    rw [progress] at answered ⊢
    obtain ⟨there, begun⟩ := run later operates
    exact Progress.answer?_run accepts begun ((continues_of_operates goes).channels n there).2 answered
  · intro later operates own number same waits response answered
    rw [channel] at waits ⊢
    rw [progress] at same answered
    cases same
    exact Progress.entered_iff_of_answer? waits (run later operates).2 answered

/-- **What is posted to an endpoint for events is served.** -/
theorem serve_posts (sound : intake.Sound) (accepts : (ex.channel n).accepts = true)
    (posts : r.Posts endpoint) : Served ex intake n endpoint r := by
  cases reaction : Ingress.receive intake endpoint.read r with
  | answer response => exact served_of_answer sound accepts posts reaction
  | send event => exact served_of_send sound accepts posts reaction

/-! ### Reports and detections of one name -/

/-- **A report and a detection of the raw name** come to the same. -/
structure Interchangeable (raw : String) (bare tagged : HttpRequest) : Prop where
  /-- What comes of the two bodies is the same, -/
  reaction : Ingress.submit (Endpoint.reports.read bare.body) =
    Ingress.submit (Endpoint.events.read tagged.body)
  /-- a detection of the normal form of the name if there is one. -/
  sends : ∀ event, Ingress.submit (Endpoint.reports.read bare.body) = .send event ↔
    ∃ t, Domain.normalize raw = some t ∧ event = .domainDetected t
  /-- So is what comes of the two requests, if the library treats them alike, -/
  served : ∀ intake : Intake, intake.Sound → intake.Alike bare tagged →
    ∀ (ex : Executor) (n : Nat), ex.serve intake n bare = ex.serve intake n tagged
  /-- and the detection is sent if it hands over the bodies. -/
  gains : ∀ intake : Intake, intake.Sound → intake bare = .ok bare.body →
    ∀ (ex : Executor) (n : Nat), (ex.channel n).accepts = true → ∀ event,
      ((ex.serve intake n bare).1.channel n).events = (ex.channel n).events ++ [event] ↔
        ∃ t, Domain.normalize raw = some t ∧ event = .domainDetected t

theorem interchangeable {raw : String} {bare tagged : HttpRequest}
    (reports : bare.Carries .reports (MatchReport.toJson ⟨raw⟩))
    (detects : tagged.Carries .events (Event.domainDetected raw).toJson) :
    Interchangeable raw bare tagged := by
  have read : Endpoint.reports.read bare.body = .ok (.domainDetected raw) := Ingress.read_report reports
  have same : Endpoint.reports.read bare.body = Endpoint.events.read tagged.body :=
    read.trans (Ingress.read_event detects).symm
  have enters : ∀ event, (∃ own, Endpoint.reports.read bare.body = .ok own ∧ Ingress.Enters own event) ↔
      ∃ t, Domain.normalize raw = some t ∧ event = .domainDetected t := by
    intro event
    rw [read]
    constructor
    · rintro ⟨own, known, enters⟩
      cases known
      cases enters with
      | detection normal => exact ⟨_, normal, rfl⟩
    · rintro ⟨t, normal, rfl⟩
      exact ⟨_, rfl, .detection normal⟩
  refine ⟨congrArg _ same, fun event => Ingress.submit_eq_send_iff.trans (enters event), ?_, ?_⟩
  · intro intake sound alike ex n
    unfold serve
    rw [Ingress.handle_posts reports.toPosts, Ingress.handle_posts detects.toPosts,
      Ingress.receive_congr sound alike (congrArg _ same)]
  · intro intake sound whole ex n accepts event
    rw [sent_iff sound accepts reports.toPosts, ← enters event]
    exact exists_congr fun own => and_iff_right whole

/-- The first member of an object stands before the others. -/
theorem size_post_cons (endpoint : Endpoint) (name : String) (j : Json) (next : String × Json)
    (rest : List (String × Json)) :
    (HttpRequest.post endpoint (.object ((name, j) :: next :: rest))).body.size =
      (HttpRequest.post endpoint (.object (next :: rest))).body.size +
        (Json.writeText name ++ ':' :: (j.write ++ [','])).utf8Encode.size := by
  have size : ∀ j : Json, (HttpRequest.post endpoint j).body.size = j.write.utf8Encode.size :=
    fun j => congrArg ByteArray.size String.toByteArray_ofList
  have first : (Json.object ((name, j) :: next :: rest)).write =
      ['\x7b'] ++ (Json.writeText name ++ ':' :: (j.write ++ [','])) ++ Json.writeMembers (next :: rest) := by
    rw [Json.write, Json.writeMembers]
    · simp
    · nofun
  have others : (Json.object (next :: rest)).write = ['\x7b'] ++ Json.writeMembers (next :: rest) := by
    rw [Json.write, List.singleton_append]
  rw [size, size, first, others]
  simp only [List.utf8Encode_append, ByteArray.size_append]
  omega

/-- The shortest text of a report is shorter than that of the detection. -/
theorem size_report_le (raw : String) :
    (HttpRequest.report raw).body.size ≤ (HttpRequest.detection raw).body.size :=
  Nat.le_trans (Nat.le_add_right _ _) (Nat.le_of_eq (size_post_cons .events _ _ _ _).symm)

theorem standard_of_le (within : r.body.size ≤ bodyLimit) : Intake.standard r = .ok r.body :=
  if_pos within

/-- **What is accepted is what is examined**: names in normal form stay as they are, an answer of 202 stands
for one event on the channel, a queued detection is handled as the one that was posted, and it does not
matter at which endpoint a raw name is posted, as long as the library reads both bodies. -/
theorem ingress_agrees :
    (∀ raw t, Domain.normalize raw = some t → Domain.Normal t ∧ Domain.normalize t = some t) ∧
    (∀ (ex : Executor) (intake : Intake) (n : Nat) (endpoint : Endpoint) (r : HttpRequest),
      intake.Sound → (ex.channel n).accepts = true → r.Posts endpoint →
        Served ex intake n endpoint r) ∧
    (∀ raw : String,
      (∀ bare tagged : HttpRequest, bare.Carries .reports (MatchReport.toJson ⟨raw⟩) →
        tagged.Carries .events (Event.domainDetected raw).toJson → Interchangeable raw bare tagged) ∧
      Interchangeable raw (.report raw) (.detection raw) ∧
      ((HttpRequest.detection raw).body.size ≤ bodyLimit →
        ∀ (ex : Executor) (n : Nat),
          ex.serve .standard n (.report raw) = ex.serve .standard n (.detection raw) ∧
          ((ex.channel n).accepts = true → ∀ event : Event,
            ((ex.serve .standard n (.report raw)).1.channel n).events =
                (ex.channel n).events ++ [event] ↔
              ∃ t, Domain.normalize raw = some t ∧ event = .domainDetected t))) ∧
    ∀ (state : State) (services : Services) (filterDelay : Nat) (now : Int) (random : Nat → Nat)
      (ex : Executor), ReflTransGen Operates (new state services filterDelay now random) ex → ex.Tidy := by
  refine ⟨fun raw t normal => ?_, fun ex intake n endpoint r => serve_posts, fun raw => ?_, ?_⟩
  · exact ⟨Domain.normal_of_normalize normal, Domain.normalize_normalize normal⟩
  · have posted : Interchangeable raw (.report raw) (.detection raw) :=
      interchangeable (carries_post (MatchReport.writable_toJson _)) (carries_post (Event.writable_toJson _))
    refine ⟨fun bare tagged => interchangeable, posted, fun within ex n => ?_⟩
    have tagged : Intake.standard (.detection raw) = .ok _ := standard_of_le within
    have bare : Intake.standard (.report raw) = .ok _ :=
      standard_of_le (Nat.le_trans (size_report_le raw) within)
    exact ⟨posted.served _ Intake.sound_standard (Intake.alike_of_ok bare tagged) ex n,
      posted.gains _ Intake.sound_standard bare ex n⟩
  · exact fun state services filterDelay now random ex => tidy_of_operates

/-- A service with one category, in which the local filter finds every domain. -/
def watching : Executor :=
  .new (State.new { Config.standard with categories := [Definition.new "games"] } Database.new)
    ⟨fun _ => .ok ⟨[⟨"category:games", "", .hit⟩]⟩, fun _ _ => .error .http, fun _ _ _ => .error .http,
      fun _ => .error .notFound⟩
    0 0 id

/-- A raw name with a blank, capitals and a dot at its end is queued in normal form, and examined so: its
match waits to be confirmed. -/
theorem agrees_padded :
    Domain.Normal "app.example.com" ∧ Domain.normalize "app.example.com" = some "app.example.com" ∧
      Served watching .standard 0 .reports (.report " App.Example.com.") ∧
      ((watching.serve .standard 0 (.report " App.Example.com.")).1.channel 0).events =
        [.domainDetected "app.example.com"] ∧
      watching.serve .standard 0 (.report " App.Example.com.") =
        watching.serve .standard 0 (.detection " App.Example.com.") ∧
      watching.handleEvent (.domainDetected " App.Example.com.") =
        ({ watching with
            state := (watching.state.detect watching.surroundings "app.example.com").1
            fresh := 1 }, false) ∧
      (watching.handleEvent (.domainDetected " App.Example.com.")).1.state.session.queue.pending =
        [(⟨"games", "app.example.com", "app.example.com"⟩, 0)] := by
  have reports : (HttpRequest.report " App.Example.com.").Carries .reports
      (MatchReport.toJson ⟨" App.Example.com."⟩) := carries_post (MatchReport.writable_toJson _)
  have cut : Domain.normalize " App.Example.com." = some "app.example.com" := by decide +kernel
  have short : (HttpRequest.detection " App.Example.com.").body.size ≤ bodyLimit := by decide +kernel
  obtain ⟨normal, stays⟩ := ingress_agrees.1 " App.Example.com." "app.example.com" cut
  obtain ⟨same, gains⟩ := (ingress_agrees.2.2.1 " App.Example.com.").2.2 short watching 0
  have served := ingress_agrees.2.1 watching .standard 0 .reports _ Intake.sound_standard rfl reports.toPosts
  have queued := (gains rfl (.domainDetected "app.example.com")).mpr ⟨_, cut, rfl⟩
  have tidy : watching.Tidy := ingress_agrees.2.2.2 _ _ _ _ _ _ .refl
  obtain ⟨raw, read, handled⟩ := served.detection "app.example.com" queued
  obtain rfl : raw = " App.Example.com." := by
    have known := Ingress.read_report reports
    rw [read] at known
    cases known
    rfl
  have detected := handled.detected watching tidy rfl " App.Example.com." List.mem_cons_self
  refine ⟨normal, stays, served, queued, same, detected, ?_⟩
  rw [detected]
  decide +kernel

end Executor

end CategoryFilter
