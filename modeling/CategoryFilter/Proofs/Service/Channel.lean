/-
**What becomes of an event that is sent.**

The events that were sent are one line, and those on the channel are its beginning (`held`). A place in the
line moves forward when an event is received, so that an event that waits for room comes onto the channel,
unless nobody receives any more before:

* `send_room`, `send_full`: an event that is sent is put on the channel, or waits if the channel is full.
* `Waits.step`, `Waits.run`: an event that waits, waits on, comes onto the channel, or is refused; one step
  and any number of steps.
* `Refuses.run`, `fate_run`: what is refused or put stays so.
* `fate_send_run`: so an event that was sent is on the channel, waits or is refused.
-/

import CategoryFilter.Service.Channel
import Mathlib.Logic.Relation

namespace CategoryFilter.Channel

open Relation (ReflTransGen)

variable {c c' : Channel} {event : Event} {number : Nat}

/-- The events that are on a channel. -/
def held (c : Channel) : List Event := c.events.take eventCapacity

/-- What happens to a channel. -/
inductive Step : Channel → Channel → Prop
  | sent {c : Channel} (event : Event) (accepts : c.accepts = true) : Step c (c.send event)
  | received {c : Channel} {event : Event} {rest : List Event} (first : c.events = event :: rest) :
      Step c (c.receive rest)
  | closed (c : Channel) : Step c c.close
  /-- Nobody sends any more. -/
  | starved (c : Channel) : Step c { c with isFed := false }

/-- An event waits for room, with a number of events sent before it. -/
structure Waits (c : Channel) (number : Nat) (event : Event) : Prop where
  isOpen : c.isOpen = true
  unput : c.puts ≤ number
  queued : c.events[number - c.left]? = some event

/-- An event was not put on a channel, and none can be any more. -/
structure Refuses (c : Channel) (number : Nat) : Prop where
  closed : c.isOpen = false
  empty : c.events = []
  unput : c.puts ≤ number

theorem fate_eq_put_iff : c.fate number = .put ↔ number < c.puts := by
  unfold fate
  split
  · next put => exact iff_of_true rfl put
  · next unput =>
    refine iff_of_false ?_ unput
    split <;> nofun

theorem Waits.fate_eq (waits : c.Waits number event) : c.fate number = .waits :=
  (if_neg (Nat.not_lt.mpr waits.unput)).trans (if_pos waits.isOpen)

theorem Refuses.fate_eq (refuses : c.Refuses number) : c.fate number = .refused := by
  refine (if_neg (Nat.not_lt.mpr refuses.unput)).trans (if_neg ?_)
  rw [refuses.closed]
  exact Bool.false_ne_true

/-! ### Sending -/

theorem eventCapacity_pos : 0 < eventCapacity := by decide

/-- With room an event is put on the channel, -/
theorem send_room (room : c.events.length < eventCapacity) (event : Event) :
    c.sent < (c.send event).puts ∧ (c.send event).held = c.held ++ [event] := by
  constructor
  · show c.left + c.events.length < c.left + min (c.events ++ [event]).length eventCapacity
    rw [List.length_append, List.length_singleton]
    omega
  · show (c.events ++ [event]).take _ = c.events.take _ ++ [event]
    rw [List.take_of_length_le (Nat.le_of_lt room), List.take_of_length_le]
    rw [List.length_append, List.length_singleton]
    exact room

/-- and without room it waits. -/
theorem send_full (isOpen : c.isOpen = true) (full : eventCapacity ≤ c.events.length) (event : Event) :
    (c.send event).Waits c.sent event ∧ (c.send event).held = c.held := by
  refine ⟨⟨isOpen, ?_, ?_⟩, List.take_append_of_le_length full⟩
  · exact Nat.add_le_add_left (Nat.le_trans (Nat.min_le_right _ _) full) _
  · show (c.events ++ [event])[c.left + c.events.length - c.left]? = some event
    rw [Nat.add_sub_cancel_left, List.getElem?_concat_length]

/-! ### What happens later -/

theorem Step.puts_le (step : Step c c') : c.puts ≤ c'.puts := by
  cases step with
  | sent event accepts =>
    refine Nat.add_le_add_left ?_ _
    show min c.events.length _ ≤ min (c.events ++ [event]).length _
    rw [List.length_append]
    omega
  | @received _ rest first =>
    show c.left + min c.events.length _ ≤ c.left + 1 + min rest.length _
    rw [first, List.length_cons]
    omega
  | closed => exact Nat.le_refl _
  | starved => exact Nat.le_refl _

theorem Refuses.step (refuses : c.Refuses number) (step : Step c c') : c'.Refuses number := by
  cases step with
  | sent event taken =>
    unfold accepts at taken
    rw [refuses.closed] at taken
    cases taken
  | received first =>
    rw [refuses.empty] at first
    cases first
  | closed => exact ⟨rfl, rfl, refuses.unput⟩
  | starved => exact ⟨refuses.closed, refuses.empty, refuses.unput⟩

/-- Where an event waits, the channel is full. -/
theorem Waits.full (waits : c.Waits number event) :
    c.left + eventCapacity ≤ number ∧ number < c.left + c.events.length := by
  have place := (List.getElem?_eq_some_iff.mp waits.queued).1
  have unput := waits.unput
  unfold puts at unput
  omega

/-- **An event that waits** waits on, comes onto the channel behind the others there, or is refused. -/
theorem Waits.step (waits : c.Waits number event) (step : Step c c') :
    c'.Waits number event ∨ (number < c'.puts ∧ c'.held = c.held.tail ++ [event]) ∨ c'.Refuses number := by
  obtain ⟨beyond, place⟩ := waits.full
  cases step with
  | sent other accepts =>
    refine .inl ⟨waits.isOpen, ?_, ?_⟩
    · exact Nat.le_trans (Nat.add_le_add_left (Nat.min_le_right _ _) _) beyond
    · show (c.events ++ [other])[number - c.left]? = some event
      rw [List.getElem?_append_left (by omega)]
      exact waits.queued
  | @received first rest line =>
    have queued := waits.queued
    have positive := eventCapacity_pos
    rw [line, List.length_cons] at place
    obtain ⟨index, here⟩ : ∃ index, number - c.left = index + 1 :=
      Nat.exists_eq_succ_of_ne_zero (by omega)
    rw [line, here, List.getElem?_cons_succ] at queued
    have puts : (c.receive rest).puts = c.left + 1 + eventCapacity := by
      show c.left + 1 + min rest.length eventCapacity = _
      omega
    by_cases room : number < (c.receive rest).puts
    · refine .inr (.inl ⟨room, ?_⟩)
      obtain rfl : index = eventCapacity - 1 := by omega
      show rest.take eventCapacity = (c.events.take eventCapacity).tail ++ [event]
      rw [line, ← Nat.sub_add_cancel positive, List.take_succ_cons, List.tail_cons, List.take_add_one, queued]
      rfl
    · refine .inl ⟨waits.isOpen, Nat.not_lt.mp room, ?_⟩
      show rest[number - (c.left + 1)]? = some event
      rw [← queued]
      congr 1
      omega
  | closed => exact .inr (.inr ⟨rfl, rfl, waits.unput⟩)
  | starved => exact .inl ⟨waits.isOpen, waits.unput, waits.queued⟩

/-- An event that waited has come onto the channel, behind the others there. -/
def Entered (c : Channel) (number : Nat) (event : Event) (c' : Channel) : Prop :=
  ∃ before after, ReflTransGen Step c before ∧ Step before after ∧ ReflTransGen Step after c' ∧
    before.Waits number event ∧ number < after.puts ∧ after.held = before.held.tail ++ [event]

theorem puts_run (run : ReflTransGen Step c c') : c.puts ≤ c'.puts := by
  induction run with
  | refl => exact Nat.le_refl _
  | tail _ step ih => exact Nat.le_trans ih step.puts_le

theorem Refuses.run (refuses : c.Refuses number) (run : ReflTransGen Step c c') : c'.Refuses number := by
  induction run with
  | refl => exact refuses
  | tail _ step ih => exact ih.step step

theorem Entered.fate_eq (entered : c.Entered number event c') : c'.fate number = .put := by
  obtain ⟨before, after, -, -, behind, -, put, -⟩ := entered
  exact fate_eq_put_iff.mpr (Nat.lt_of_lt_of_le put (puts_run behind))

/-- **What becomes of an event that waits.** -/
theorem Waits.run (waits : c.Waits number event) (run : ReflTransGen Step c c') :
    c'.Waits number event ∨ c.Entered number event c' ∨ c'.Refuses number := by
  induction run with
  | refl => exact .inl waits
  | @tail mid c' path step ih =>
    rcases ih with waits | ⟨before, after, ahead, enters, behind, entered⟩ | refuses
    · rcases waits.step step with waits' | ⟨put, held⟩ | refuses
      · exact .inl waits'
      · exact .inr (.inl ⟨mid, c', path, step, .refl, waits, put, held⟩)
      · exact .inr (.inr refuses)
    · exact .inr (.inl ⟨before, after, ahead, enters, behind.tail step, entered⟩)
    · exact .inr (.inr (refuses.step step))

/-- What is put on a channel stays put. -/
theorem fate_run (put : c.fate number = .put) (run : ReflTransGen Step c c') : c'.fate number = .put := by
  rw [fate_eq_put_iff] at put ⊢
  exact Nat.lt_of_lt_of_le put (puts_run run)

/-- An event that is sent goes onto the channel, or waits if that is full. -/
theorem fate_send (accepts : c.accepts = true) (event : Event) :
    ((c.send event).fate c.sent = .put ∧ (c.send event).held = c.held ++ [event]) ∨
      ((c.send event).Waits c.sent event ∧ (c.send event).held = c.held) := by
  have isOpen : c.isOpen = true := by
    unfold Channel.accepts at accepts
    exact (Bool.and_eq_true_iff.mp accepts).1
  rcases Nat.lt_or_ge c.events.length eventCapacity with room | full
  · obtain ⟨put, held⟩ := send_room room event
    exact .inl ⟨fate_eq_put_iff.mpr put, held⟩
  · exact .inr (send_full isOpen full event)

/-- What becomes of it. -/
theorem fate_send_run (accepts : c.accepts = true) (event : Event)
    (run : ReflTransGen Step (c.send event) c') :
    c'.fate c.sent = .put ∨ c'.Waits c.sent event ∨ c'.Refuses c.sent := by
  rcases fate_send accepts event with ⟨put, -⟩ | ⟨waits, -⟩
  · exact .inl (fate_run put run)
  · rcases waits.run run with waits' | entered | refuses
    · exact .inr (.inl waits')
    · exact .inl entered.fate_eq
    · exact .inr (.inr refuses)

/-- To take off everything is to receive it. -/
theorem receiveAll_run (c : Channel) : ReflTransGen Step c c.receiveAll.1 := by
  have first : ∀ count ≤ c.events.length,
      ReflTransGen Step c { c with events := c.events.drop count, left := c.left + count } := by
    intro count
    induction count with
    | zero => exact fun _ => .refl
    | succ count ih =>
      intro enough
      refine (ih (Nat.le_of_lt enough)).tail ?_
      exact .received (List.drop_eq_getElem_cons enough)
  have all := first _ (Nat.min_le_left c.events.length eventCapacity)
  have left : c.events.drop (min c.events.length eventCapacity) = c.events.drop eventCapacity := by
    rw [Nat.min_comm, ← List.drop_eq_drop_min]
  rwa [left] at all

end CategoryFilter.Channel
