/-
The queue of candidates that wait for confirmation.

A candidate waits at most once, with the number of its failed attempts. Putting a failed candidate back
counts one attempt more and never lowers a count already recorded; a candidate whose attempts are used
up is dropped instead.
-/

import CategoryFilter.Candidate

namespace CategoryFilter

/-- A waiting candidate with the number of its failed attempts. -/
abbrev Pending := Candidate × UInt32

/-- Waiting candidates, in the order of their arrival. -/
structure Queue where
  maxAttempts : UInt32
  pending : List Pending
deriving Repr, DecidableEq

namespace Queue

/-- An empty queue that gives each candidate one attempt at least. -/
def new (maxAttempts : UInt32) : Queue :=
  ⟨max maxAttempts 1, []⟩

/-- The failed attempts of a waiting candidate. -/
def attempts? (q : Queue) (c : Candidate) : Option UInt32 :=
  q.pending.lookup c

def contains (q : Queue) (c : Candidate) : Bool :=
  (q.attempts? c).isSome

/-- Add a fresh candidate, and say whether it was not waiting yet. -/
def enqueue (q : Queue) (c : Candidate) : Queue × Bool :=
  if q.contains c then (q, false) else ({ q with pending := q.pending ++ [(c, 0)] }, true)

/-- Record an attempt count for a candidate, unless a higher one is recorded. -/
def raise (q : Queue) (c : Candidate) (attempts : UInt32) : Queue :=
  if q.contains c then
    { q with pending := q.pending.map fun p => if p.1 = c then (c, max p.2 attempts) else p }
  else { q with pending := q.pending ++ [(c, attempts)] }

/-- Put back a candidate that failed after `attempts` earlier failures, and say whether it may try
again. -/
def requeue (q : Queue) (c : Candidate) (attempts : UInt32) : Queue × Bool :=
  let failed := attempts + 1
  if q.maxAttempts ≤ failed then (q, false) else (q.raise c failed, true)

/-- Take everything that waits. -/
def drain (q : Queue) : Queue × List Pending :=
  ({ q with pending := [] }, q.pending)

def size (q : Queue) : Nat :=
  q.pending.length

def isEmpty (q : Queue) : Bool :=
  q.pending.isEmpty

end Queue

/-- Pending candidates in the order of the candidates. -/
def sortPending (batch : List Pending) : List Pending :=
  batch.mergeSort fun a b => !b.1.before a.1

/-- Pending candidates of one category each, the categories ascending and each group in the order of
the candidates. -/
def groupByCategory (batch : List Pending) : List (String × List Pending) :=
  (sortPending batch).foldr
    (fun p groups =>
      match groups with
      | (category, items) :: rest =>
        if p.1.category = category then (category, p :: items) :: rest
        else (p.1.category, [p]) :: (category, items) :: rest
      | [] => [(p.1.category, [p])])
    []

end CategoryFilter
