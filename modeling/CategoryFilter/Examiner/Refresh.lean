/-
Refresh of a category after its local filter changed.

After a wait for things to settle, excluded hits become passthroughs. Every other member is checked
with the local filter; those it still lists are asked of the source. Members that are no longer listed
are removed, hits that the source refutes and passthroughs that it confirms as well. A failure of the
source leaves all but the excluded hits as they were, and so does a shutdown before the last member.

`refresh` is the whole operation. Its parts between two waits are `beginRefresh`, one `Refresh.note` for
each member, and `concludeRefresh`.
-/

import CategoryFilter.Confirm.Basic
import CategoryFilter.Examiner.State
import CategoryFilter.Examiner.Surroundings

namespace CategoryFilter

/-- What a refresh of a category did. -/
structure RefreshReport where
  category : String
  /-- Members of both sets at the beginning. -/
  checked : Nat
  /-- Excluded hits made passthroughs. -/
  excluded : Nat
  /-- Members that the local filter no longer lists. -/
  unmatched : Nat
  /-- Members that the source was asked about. -/
  escalated : Nat
  removedHits : Nat
  removedPassthrough : Nat
  changed : Bool
deriving Repr, DecidableEq

namespace RefreshReport

/-- The report of a refresh that found so many members. -/
def start (category : String) (checked : Nat) : RefreshReport :=
  ⟨category, checked, 0, 0, 0, 0, 0, false⟩

end RefreshReport

/-- The set that a member is in. -/
inductive Side where
  | hit
  | passthrough
deriving Repr, DecidableEq

/-- A member of one of a category's sets. -/
structure Member where
  domain : String
  side : Side
deriving Repr, DecidableEq

/-- A refresh between the migration of excluded hits and its end. -/
structure Refresh where
  category : String
  strategy : Strategy
  report : RefreshReport
  /-- Whether a membership changed so far. -/
  changed : Bool
  /-- Members still to be checked. -/
  remaining : List Member
  /-- Checked members that are no longer listed. -/
  unmatched : List Member
  /-- Checked members that the source is asked about. -/
  escalated : List Member
deriving Repr

/-- The first part of a refresh: nothing to do, a report at once, or members to check. -/
inductive Refresh.Stage where
  | skipped
  | finished (report : RefreshReport)
  | running (r : Refresh)

/-- Whether the answer of the local filter still lists a category: its first result with that uid says
anything but no match. A failed check counts as listed. -/
def stillListed (uid : String) (answer : Except Failure FilterResponse) : Bool :=
  match answer with
  | .error _ => true
  | .ok response =>
    match response.results.find? fun r => r.uid = uid with
    | some r => r.status != .noMatch
    | none => false

namespace Refresh

/-- The question about a member. -/
def request (category domain : String) : FilterRequest :=
  ⟨domain, [Category.filterUid category]⟩

/-- Take the answer about the next member. -/
def note (r : Refresh) (answer : Except Failure FilterResponse) : Refresh :=
  match r.remaining with
  | [] => r
  | m :: rest =>
    if stillListed (Category.filterUid r.category) answer then
      { r with remaining := rest, escalated := r.escalated ++ [m] }
    else { r with remaining := rest, unmatched := r.unmatched ++ [m] }

/-- Whether a checked member is removed for what the source says, when it does say something. -/
def drifted (confirmation : Confirmation) (m : Member) : Bool :=
  match m.side with
  | .hit => !confirmation.confirmed.contains m.domain
  | .passthrough => confirmation.confirmed.contains m.domain

/-- The escalated members that are removed. -/
def removals (r : Refresh) (confirmation : Confirmation) : List Member :=
  r.escalated.filter fun m =>
    !confirmation.failed.contains m.domain && drifted confirmation m

end Refresh

namespace State

/-- Both sets of a category. -/
def loadSets (keys : Category.SetKeys) : Action (List String × List String) := do
  let hits ← Classification.hits keys
  return (hits, ← Classification.passthroughs keys)

/-- Make excluded hits passthroughs, and say whether a membership changed. -/
def moveExcluded (s : State) (keys : Category.SetKeys) (score : Score) (domains : List String) :
    State × Bool :=
  domains.foldl
    (fun (s, changed) domain =>
      let (s, moved) := s.apply (Classification.addPassthrough keys domain score)
      (s, changed || moved))
    (s, false)

/-- Remove members from their sets, and say whether a membership changed. -/
def removeMembers (s : State) (keys : Category.SetKeys) (members : List Member) : State × Bool :=
  members.foldl
    (fun (s, changed) m =>
      let (s, removed) := s.apply <|
        match m.side with
        | .hit => Classification.removeHit keys m.domain
        | .passthrough => Classification.removePassthrough keys m.domain
      (s, changed || removed))
    (s, false)

/-- The part of a refresh before the first member is checked. -/
def beginRefresh (s : State) (clock : Clock) (category : String) :
    State × Except Failure Refresh.Stage :=
  let strategy := s.registry.strategy category
  if !strategy.updateConfirmSet then (s, .ok .skipped)
  else
    let keys := Category.setKeys category
    match s.act (loadSets keys) with
    | (s, .error cause) => (s, .error (.storage cause))
    | (s, .ok (hits, passthroughs)) =>
      let report := RefreshReport.start category (hits.length + passthroughs.length)
      if report.checked = 0 then (s, .ok (.finished report))
      else
        let exclusions := s.registry.exclusions category
        let (excluded, kept) := hits.partition exclusions.covers
        let (s, changed) := s.moveExcluded keys (clock (.refresh category)) excluded
        (s, .ok (.running {
          category := category
          strategy := strategy
          report := { report with excluded := excluded.length }
          changed := changed
          remaining := kept.map (⟨·, .hit⟩) ++
            (passthroughs.filter fun d => !exclusions.covers d).map (⟨·, .passthrough⟩)
          unmatched := []
          escalated := [] }))

/-- A refresh given up for a shutdown. -/
def abandonRefresh (s : State) (r : Refresh) : State :=
  s.notifyIf r.changed r.category

/-- The part of a refresh after the last member is checked. -/
def concludeRefresh (s : State) (services : Services) (r : Refresh) :
    State × Except Failure RefreshReport :=
  let style := s.registry.style r.category
  let source := Source.select r.strategy style
  let (asked, outcome) :=
    Confirm.confirm services r.category source style (r.escalated.map (·.domain))
  let s := s.ask asked
  match outcome with
  | .error cause => (s.notifyIf r.changed r.category, .error cause)
  | .ok confirmation =>
    let keys := Category.setKeys r.category
    let removals := r.removals confirmation
    let (s, unlisted) := s.removeMembers keys r.unmatched
    let (s, refuted) := s.removeMembers keys removals
    let changed := r.changed || unlisted || refuted
    (s.notifyIf changed r.category,
      .ok { r.report with
        unmatched := r.unmatched.length
        escalated := r.escalated.length
        removedHits := (removals.filter fun m => m.side = .hit).length
        removedPassthrough := (removals.filter fun m => m.side = .passthrough).length
        changed := changed })

/-- Check the remaining members of a refresh and conclude it. `fuel` bounds the members. -/
def checkMembers (around : Surroundings) (fuel : Nat) (s : State) (r : Refresh) :
    State × Except Failure (Option RefreshReport) :=
  match fuel, r.remaining with
  | fuel + 1, m :: _ =>
    if around.stopped (.member r.category m.domain) then (s.abandonRefresh r, .ok none)
    else
      let request := Refresh.request r.category m.domain
      checkMembers around fuel (s.ask [.filter request])
        (r.note (around.services.checkFilter request))
  | _, _ =>
    let (s, outcome) := s.concludeRefresh around.services r
    (s, outcome.map some)

/-- Refresh a category. There is no report if the feature is off, shutdown was asked for, or the category
keeps no sets. -/
def refresh (s : State) (around : Surroundings) (category : String) :
    State × Except Failure (Option RefreshReport) :=
  if !s.session.enabled || around.stopped (.settling category) then (s, .ok none)
  else
    match s.beginRefresh around.clock category with
    | (s, .error cause) => (s, .error cause)
    | (s, .ok .skipped) => (s, .ok none)
    | (s, .ok (.finished report)) => (s, .ok (some report))
    | (s, .ok (.running r)) => checkMembers around r.remaining.length s r

/-- Refresh some categories one after another, until shutdown is asked for. Failures are passed over. -/
def refreshEach (s : State) (around : Surroundings) : List String → State × List RefreshReport
  | [] => (s, [])
  | category :: rest =>
    if around.stopped (.turn category) then (s, [])
    else
      let (s, outcome) := s.refresh around category
      let (s, reports) := refreshEach s around rest
      match outcome with
      | .ok (some report) => (s, report :: reports)
      | _ => (s, reports)

/-- Refresh every active category. -/
def refreshAll (s : State) (around : Surroundings) : State × List RefreshReport :=
  s.refreshEach around s.registry.activeCategories

end State

end CategoryFilter
