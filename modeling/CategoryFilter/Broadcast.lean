/-
Notices for those who subscribed.

A channel numbers its notices and keeps the latest of them, as many as its capacity. A subscriber has
the number of the notice that it receives next and sees only what is sent after it subscribed. One that
falls behind what is kept is told how many notices it missed and goes on with the oldest kept one.
Without subscribers a notice is not sent at all.
-/

import CategoryFilter.Event

namespace CategoryFilter

/-- A channel with its subscribers. -/
structure Broadcast where
  capacity : Nat
  /-- How many notices were sent. -/
  sent : Nat
  /-- The kept notices, oldest first. -/
  kept : List SetsChanged
  /-- Each subscriber with the number of the notice that it receives next. -/
  subscribers : List (Nat × Nat)
  /-- How many have subscribed so far. -/
  subscriptions : Nat
deriving Repr

/-- What a subscriber receives. -/
inductive Receipt where
  | notice (n : SetsChanged)
  | missed (count : Nat)
  | nothing
deriving Repr, DecidableEq

namespace Broadcast

/-- The capacity of a channel that nobody asked for one. -/
def standardCapacity : Nat := 256

/-- A channel of at least the given capacity, which is rounded up to a power of two. -/
def new (capacity : Nat) : Broadcast :=
  ⟨capacity.nextPowerOfTwo, 0, [], [], 0⟩

/-- Subscribe, and get the subscriber's number. -/
def subscribe (b : Broadcast) : Broadcast × Nat :=
  ({ b with
      subscribers := b.subscribers ++ [(b.subscriptions, b.sent)]
      subscriptions := b.subscriptions + 1 },
    b.subscriptions)

/-- End a subscription. -/
def unsubscribe (b : Broadcast) (subscriber : Nat) : Broadcast :=
  { b with subscribers := b.subscribers.filter fun s => s.1 != subscriber }

/-- Send a notice. -/
def send (b : Broadcast) (n : SetsChanged) : Broadcast :=
  if b.subscribers.isEmpty then b
  else
    let kept := b.kept ++ [n]
    { b with sent := b.sent + 1, kept := kept.drop (kept.length - b.capacity) }

/-- Let a subscriber go on with a notice. -/
def proceed (b : Broadcast) (subscriber next : Nat) : Broadcast :=
  { b with
    subscribers := b.subscribers.map fun s => if s.1 = subscriber then (subscriber, next) else s }

/-- Receive the next notice; one who never subscribed receives nothing. -/
def receive (b : Broadcast) (subscriber : Nat) : Broadcast × Receipt :=
  match b.subscribers.lookup subscriber with
  | none => (b, .nothing)
  | some next =>
    let oldest := b.sent - b.kept.length
    if next < oldest then (b.proceed subscriber oldest, .missed (oldest - next))
    else
      match b.kept[next - oldest]? with
      | some n => (b.proceed subscriber (next + 1), .notice n)
      | none => (b, .nothing)

end Broadcast

end CategoryFilter
