/-
The channel of events between the interface and a dispatcher.

A channel holds a bounded number of events. Whoever sends to a full one waits for room, and room goes to the
one that has waited longest; so the events that were sent are one line, of which the first are on the
channel. When nobody receives any more, what is on the channel is dropped and those that wait are told.
-/

import CategoryFilter.Event

namespace CategoryFilter

/-- Events that a channel holds at a time. -/
def eventCapacity : Nat := 1024

/-- A channel of events. -/
structure Channel where
  /-- The events that were sent and did not leave, first come first: those on the channel and, behind them,
  those that wait for room. -/
  events : List Event
  /-- How many events left the channel. -/
  left : Nat
  /-- Whether somebody receives. -/
  isOpen : Bool
  /-- Whether somebody sends. -/
  isFed : Bool
deriving Repr, DecidableEq

/-- What has become of an event that was sent. -/
inductive Channel.Fate where
  /-- It was put on the channel. -/
  | put
  /-- It waits for room. -/
  | waits
  /-- Nobody receives any more, and it was not put there. -/
  | refused
deriving Repr, DecidableEq

namespace Channel

/-- A channel without events. -/
def new : Channel := ⟨[], 0, true, true⟩

/-- Whether an event can be sent. -/
def accepts (c : Channel) : Bool := c.isOpen && c.isFed

/-- How many events were sent. -/
def sent (c : Channel) : Nat := c.left + c.events.length

/-- How many events were put on the channel. -/
def puts (c : Channel) : Nat := c.left + min c.events.length eventCapacity

/-- What has become of an event, by the number of those that were sent before it. -/
def fate (c : Channel) (number : Nat) : Fate :=
  if number < c.puts then .put else if c.isOpen then .waits else .refused

/-- Send an event. -/
def send (c : Channel) (event : Event) : Channel :=
  { c with events := c.events ++ [event] }

/-- Take the first event off, which the others follow. -/
def receive (c : Channel) (rest : List Event) : Channel :=
  { c with events := rest, left := c.left + 1 }

/-- Take off everything that is on the channel. -/
def receiveAll (c : Channel) : Channel × List Event :=
  ({ c with events := c.events.drop eventCapacity, left := c.puts }, c.events.take eventCapacity)

/-- Nobody receives any more. -/
def close (c : Channel) : Channel :=
  { c with events := [], left := c.puts, isOpen := false }

end Channel

end CategoryFilter
