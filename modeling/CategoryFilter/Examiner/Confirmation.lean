/-
Confirmation of the queued candidates.

The queue is drained once. For each category, in ascending order, its source is asked about the keys of
its candidates, and every candidate has one fate: a failed key puts it back or drops it, an unconfirmed
or excluded one makes its origin a passthrough, and a confirmed one makes its pattern a hit. If the
source fails as a whole all candidates of the category are put back or dropped. Candidates of a
category that keeps no sets are discarded.
-/

import CategoryFilter.Confirm.Basic
import CategoryFilter.Examiner.State
import CategoryFilter.Examiner.Surroundings

namespace CategoryFilter

/-- What a confirmation of the queue did. -/
structure ConfirmReport where
  candidates : Nat
  categories : Nat
  /-- The categories whose sets changed. -/
  changed : List String
  requeued : Nat
  dropped : Nat
deriving Repr, DecidableEq

/-- What the confirmation of one category did. -/
structure Outcome where
  changed : Bool
  requeued : Nat
  dropped : Nat
deriving Repr, DecidableEq

namespace Outcome

def empty : Outcome := ⟨false, 0, 0⟩

/-- Count a candidate that was put back or dropped. -/
def addFailed (o : Outcome) (kept : Bool) : Outcome :=
  if kept then { o with requeued := o.requeued + 1 } else { o with dropped := o.dropped + 1 }

/-- Note a change of the sets. -/
def addChange (o : Outcome) (changed : Bool) : Outcome :=
  { o with changed := o.changed || changed }

end Outcome

namespace State

/-- Put candidates back after a failure of their source. -/
def requeueAll (s : State) (items : List Pending) : State × Outcome :=
  items.foldl
    (fun (s, o) p =>
      let (s, kept) := s.requeue p
      (s, o.addFailed kept))
    (s, .empty)

/-- What the candidates of one category are settled by. -/
structure Ruling where
  category : String
  source : Source
  confirmation : Confirmation
  exclusions : Exclusions
  score : Score

/-- The candidates of a category being settled: the state, the outcome so far, and the patterns already
fed into enforcement. -/
structure Settling where
  state : State
  outcome : Outcome
  fed : List String

/-- Feed a confirmed pattern into enforcement, once. -/
def feed (clock : Clock) (ruling : Ruling) (pattern : String) (at_ : Settling) : Settling :=
  if ruling.source.feedsEnforcement && !at_.fed.contains pattern then
    let (s, _) := at_.state.updateDomain ruling.category pattern
      (clock (.feed ruling.category pattern))
    { at_ with state := s, fed := pattern :: at_.fed }
  else at_

/-- Whether a candidate whose key got an answer is a hit. -/
def Ruling.isHit (ruling : Ruling) (c : Candidate) : Bool :=
  ruling.confirmation.confirmed.contains (ruling.source.key c) &&
    !ruling.exclusions.coversAny [c.pattern, c.origin]

/-- Settle one candidate. -/
def settle (clock : Clock) (ruling : Ruling) (at_ : Settling) (p : Pending) : Settling :=
  let keys := Category.setKeys ruling.category
  if ruling.confirmation.failed.contains (ruling.source.key p.1) then
    let (s, kept) := at_.state.requeue p
    { at_ with state := s, outcome := at_.outcome.addFailed kept }
  else if ruling.isHit p.1 then
    let (s, changed) := at_.state.apply (Classification.addHit keys p.1.pattern ruling.score)
    feed clock ruling p.1.pattern { at_ with state := s, outcome := at_.outcome.addChange changed }
  else
    let (s, changed) := at_.state.apply (Classification.addPassthrough keys p.1.origin ruling.score)
    { at_ with state := s, outcome := at_.outcome.addChange changed }

/-- Cut the sets of a category to their bound, and say whether members were removed. -/
def trimSets (s : State) (category : String) : State × Bool :=
  s.apply do
    return (← Classification.trim (Category.setKeys category) s.config.maxSetSize.toNat) != 0

/-- Settle the candidates of a category, then cut its sets. -/
def settleAll (s : State) (clock : Clock) (ruling : Ruling) (items : List Pending) :
    State × Outcome :=
  let settled := items.foldl (settle clock ruling) ⟨s, .empty, []⟩
  let (s, trimmed) := settled.state.trimSets ruling.category
  (s, settled.outcome.addChange trimmed)

/-- Confirm the candidates of one category. -/
def confirmCategory (s : State) (services : Services) (clock : Clock) (category : String)
    (items : List Pending) : State × Outcome :=
  let strategy := s.registry.strategy category
  if !strategy.updateConfirmSet then (s, .empty)
  else
    let style := s.registry.style category
    let source := Source.select strategy style
    let keys := Text.sortNames (items.map fun p => source.key p.1)
    let (asked, outcome) := Confirm.confirm services category source style keys
    let s := s.ask asked
    match outcome with
    | .error _ => s.requeueAll items
    | .ok confirmation =>
      s.settleAll clock
        ⟨category, source, confirmation, s.registry.exclusions category,
          clock (.confirmation category)⟩ items

/-- Confirm one category of a batch, send a notice if its sets changed, and add to the report. -/
def confirmGroup (services : Services) (clock : Clock) (so_far : State × ConfirmReport)
    (group : String × List Pending) : State × ConfirmReport :=
  let (s, report) := so_far
  let (s, outcome) := s.confirmCategory services clock group.1 group.2
  (s.notifyIf outcome.changed group.1,
    { report with
      categories := report.categories + 1
      changed := if outcome.changed then report.changed ++ [group.1] else report.changed
      requeued := report.requeued + outcome.requeued
      dropped := report.dropped + outcome.dropped })

/-- Confirm everything that is queued. -/
def confirmQueued (s : State) (services : Services) (clock : Clock) : State × ConfirmReport :=
  let (queue, batch) := s.session.queue.drain
  (groupByCategory batch).foldl (confirmGroup services clock)
    (s.withQueue queue, ⟨batch.length, 0, [], 0, 0⟩)

end State

end CategoryFilter
