/-
**The queue over a whole history of calls.**

Detections add to the queue and confirmations drain it and put back, and any of these calls may come
between two others. What is put back has been returned by an earlier drain, with the count it is put back
with (`History`):

* `attempts?_enqueue`, `attempts?_raise`: what one call changes.
* `History.tracks`: what waits, and with which count, is told by the calls since the last drain.
* `Chain.ascending`, `Chain.length_le`: the count of a candidate that fails in one round after the other
  grows, until its attempts are used up.
* `History.accounted`: all of it, for every history.
-/

import CategoryFilter.Proofs.Conservation

namespace CategoryFilter

namespace Queue

variable {q : Queue} {c x : Candidate} {attempts limit maxAttempts : UInt32}

/-! ### One call -/

/-- A candidate that waits once waits with one count. -/
theorem attempts?_eq_some_iff (bounded : q.Bounded limit) :
    q.attempts? c = some attempts ↔ (c, attempts) ∈ q.pending :=
  lookup_eq_some_iff bounded.distinct

/-- A candidate that did not wait is added with its count, and the others keep theirs. -/
theorem lookup_append_single (pending : List Pending) (absent : pending.lookup c = none)
    (attempts : UInt32) (x : Candidate) :
    (pending ++ [(c, attempts)]).lookup x = if x = c then some attempts else pending.lookup x := by
  rw [List.lookup_append]
  by_cases same : x = c
  · subst same
    rw [absent, if_pos rfl, List.lookup_cons_self, Option.none_or]
  · rw [if_neg same, lookup_cons_other same]
    exact Option.or_none

/-- A fresh candidate waits with no failed attempt, unless it waits already. -/
theorem attempts?_enqueue (q : Queue) (c x : Candidate) :
    (q.enqueue c).1.attempts? x = if x = c then some ((q.attempts? c).getD 0) else q.attempts? x := by
  unfold enqueue
  split
  · next held =>
    obtain ⟨attempts, waits⟩ := Option.isSome_iff_exists.mp held
    by_cases same : x = c
    · rw [if_pos same, same, waits, Option.getD_some]
    · rw [if_neg same]
  · next absent =>
    have none := Option.not_isSome_iff_eq_none.mp absent
    rw [none, Option.getD_none]
    exact lookup_append_single q.pending none 0 x

theorem lookup_map_raise (pending : List Pending) (c : Candidate) (attempts : UInt32) (x : Candidate) :
    (pending.map fun p => if p.1 = c then (c, max p.2 attempts) else p).lookup x =
      if x = c then (pending.lookup c).map (max · attempts) else pending.lookup x := by
  induction pending with
  | nil => simp
  | cons p rest ih =>
    obtain ⟨d, n⟩ := p
    rw [List.map_cons]
    by_cases own : d = c
    · subst own
      rw [if_pos rfl]
      by_cases same : x = d
      · rw [if_pos same, same, List.lookup_cons_self, List.lookup_cons_self]
        rfl
      · rw [if_neg same, lookup_cons_other same, lookup_cons_other same, ih, if_neg same]
    · rw [if_neg own, lookup_cons_other (Ne.symm own)]
      by_cases here : x = d
      · rw [here, List.lookup_cons_self, List.lookup_cons_self, if_neg own]
      · rw [lookup_cons_other here, lookup_cons_other here, ih]

/-- A candidate that is put back waits with the larger one of the two counts. -/
theorem attempts?_raise (q : Queue) (c : Candidate) (attempts : UInt32) (x : Candidate) :
    (q.raise c attempts).attempts? x =
      if x = c then some (max ((q.attempts? c).getD 0) attempts) else q.attempts? x := by
  unfold raise
  split
  · next held =>
    obtain ⟨before, waits⟩ := Option.isSome_iff_exists.mp held
    refine (lookup_map_raise q.pending c attempts x).trans ?_
    show (if x = c then (q.attempts? c).map (max · attempts) else _) = _
    rw [waits]
    rfl
  · next absent =>
    have none := Option.not_isSome_iff_eq_none.mp absent
    refine (lookup_append_single q.pending none attempts x).trans ?_
    rw [none]
    show _ = if x = c then some (max 0 attempts) else _
    rw [UInt32.max_def, if_pos (UInt32.zero_le)]
    rfl

theorem attempts?_requeue (q : Queue) (c : Candidate) (attempts : UInt32) (x : Candidate) :
    (q.requeue c attempts).1.attempts? x =
      if x = c ∧ (q.requeue c attempts).2 = true then
        some (max ((q.attempts? c).getD 0) (attempts + 1))
      else q.attempts? x := by
  unfold requeue
  dsimp only
  split
  · rw [if_neg (by rintro ⟨-, impossible⟩; cases impossible)]
  · rw [attempts?_raise]
    simp only [and_true]

theorem enqueue_snd (q : Queue) (c : Candidate) : (q.enqueue c).2 = !q.contains c := by
  unfold enqueue
  split
  · next held => rw [held]; rfl
  · next absent => rw [Bool.eq_false_iff.mpr absent]; rfl

theorem contains_enqueue : (q.enqueue c).1.contains x = true ↔ x = c ∨ q.contains x = true := by
  rw [contains, attempts?_enqueue]
  by_cases same : x = c
  · rw [if_pos same]
    exact ⟨fun _ => Or.inl same, fun _ => rfl⟩
  · rw [if_neg same, or_iff_right same]
    rfl

theorem contains_requeue : (q.requeue c attempts).1.contains x = true ↔
    x = c ∧ (q.requeue c attempts).2 = true ∨ q.contains x = true := by
  rw [contains, attempts?_requeue]
  by_cases back : x = c ∧ (q.requeue c attempts).2 = true
  · rw [if_pos back]
    exact ⟨fun _ => Or.inl back, fun _ => rfl⟩
  · rw [if_neg back, or_iff_right back]
    rfl

theorem Bounded.new (maxAttempts : UInt32) : (Queue.new maxAttempts).Bounded (max maxAttempts 1) :=
  ⟨rfl, List.nodup_nil, fun _ impossible => nomatch impossible⟩

theorem Bounded.drain (bounded : q.Bounded limit) : q.drain.1.Bounded limit :=
  ⟨bounded.maxAttempts, List.nodup_nil, fun _ impossible => nomatch impossible⟩

theorem Bounded.raise (bounded : q.Bounded limit) (left : attempts < limit) (c : Candidate) :
    (q.raise c attempts).Bounded limit := by
  unfold Queue.raise
  split
  · refine ⟨bounded.maxAttempts, ?_, fun p listed => ?_⟩
    · have same : (q.pending.map fun p => if p.1 = c then (c, max p.2 attempts) else p).map Prod.fst =
          q.pending.map Prod.fst := by
        rw [List.map_map]
        refine List.map_congr_left fun p _ => ?_
        show (if p.1 = c then (c, max p.2 attempts) else p).1 = p.1
        split
        · next own => exact own.symm
        · rfl
      exact same ▸ bounded.distinct
    · obtain ⟨before, old, rfl⟩ := List.mem_map.mp listed
      split
      · show max before.2 attempts < limit
        rw [UInt32.max_def]
        split
        · exact left
        · exact bounded.below before old
      · exact bounded.below before old
  · next absent => exact bounded.append absent left

/-- What is put back has attempts left. -/
theorem Bounded.requeue (bounded : q.Bounded limit) (c : Candidate) (attempts : UInt32) :
    (q.requeue c attempts).1.Bounded limit := by
  unfold Queue.requeue
  dsimp only
  split
  · exact bounded
  · next left =>
    rw [bounded.maxAttempts, UInt32.not_le] at left
    exact bounded.raise left c

/-! ### Histories -/

/-- A call on a queue, with its answer. -/
inductive Call where
  | enqueue (c : Candidate) (fresh : Bool)
  | requeue (p : Pending) (kept : Bool)
  | drain (batch : List Pending)
deriving Repr, DecidableEq

/-- Some drain returned a candidate with a count. -/
def Returned (log : List Call) (p : Pending) : Prop :=
  ∃ batch, Call.drain batch ∈ log ∧ p ∈ batch

/-- The calls on a new queue, the last one first, and the queue after them. What is put back was returned
by a drain before. -/
inductive History (maxAttempts : UInt32) : List Call → Queue → Prop
  | start : History maxAttempts [] (new maxAttempts)
  | enqueue {log : List Call} {q : Queue} (earlier : History maxAttempts log q) (c : Candidate) :
      History maxAttempts (.enqueue c (q.enqueue c).2 :: log) (q.enqueue c).1
  | requeue {log : List Call} {q : Queue} (earlier : History maxAttempts log q) (p : Pending)
      (returned : Returned log p) :
      History maxAttempts (.requeue p (q.requeue p.1 p.2).2 :: log) (q.requeue p.1 p.2).1
  | drain {log : List Call} {q : Queue} (earlier : History maxAttempts log q) :
      History maxAttempts (.drain q.drain.2 :: log) q.drain.1

/-- The calls since the last drain. -/
def sinceDrain : List Call → List Call
  | [] => []
  | .enqueue c fresh :: log => .enqueue c fresh :: sinceDrain log
  | .requeue p kept :: log => .requeue p kept :: sinceDrain log
  | .drain _ :: _ => []

/-- The failed attempts that a call counts for a candidate, if it puts it back. -/
def Call.failures (c : Candidate) : Call → Nat
  | .requeue p true => if p.1 = c then p.2.toNat + 1 else 0
  | _ => 0

/-- The largest count a candidate was put back with since the last drain. -/
def recorded (c : Candidate) (log : List Call) : Nat :=
  ((sinceDrain log).map (Call.failures c)).foldr max 0

/-- A candidate was added or put back since the last drain. -/
def Entered (c : Candidate) (log : List Call) : Prop :=
  .enqueue c true ∈ sinceDrain log ∨ ∃ attempts, .requeue (c, attempts) true ∈ sinceDrain log

variable {log : List Call} {p : Pending} {fresh kept : Bool}

theorem entered_enqueue :
    Entered x (.enqueue c fresh :: log) ↔ x = c ∧ fresh = true ∨ Entered x log := by
  simp [Entered, sinceDrain, eq_comm, or_assoc]

theorem entered_requeue :
    Entered x (.requeue p kept :: log) ↔ x = p.1 ∧ kept = true ∨ Entered x log := by
  obtain ⟨c, attempts⟩ := p
  simp only [Entered, sinceDrain, List.mem_cons, reduceCtorEq, false_or, Call.requeue.injEq,
    Prod.mk.injEq]
  constructor
  · rintro (added | ⟨n, ⟨⟨rfl, -⟩, rfl⟩ | back⟩)
    · exact Or.inr (Or.inl added)
    · exact Or.inl ⟨rfl, rfl⟩
    · exact Or.inr (Or.inr ⟨n, back⟩)
  · rintro (⟨rfl, rfl⟩ | added | ⟨n, back⟩)
    · exact Or.inr ⟨attempts, Or.inl ⟨⟨rfl, rfl⟩, rfl⟩⟩
    · exact Or.inl added
    · exact Or.inr ⟨n, Or.inr back⟩

theorem not_entered_drain (batch : List Pending) : ¬ Entered x (.drain batch :: log) := by
  rintro (impossible | ⟨attempts, impossible⟩) <;> cases impossible

theorem recorded_enqueue : recorded x (.enqueue c fresh :: log) = recorded x log :=
  Nat.zero_max _

theorem recorded_requeue : recorded x (.requeue p kept :: log) =
    if x = p.1 ∧ kept = true then max (recorded x log) (p.2.toNat + 1) else recorded x log := by
  show max (Call.failures x (.requeue p kept)) (recorded x log) = _
  cases kept with
  | false => rw [if_neg (by simp)]; exact Nat.zero_max _
  | true =>
    show max (if p.1 = x then p.2.toNat + 1 else 0) (recorded x log) = _
    by_cases same : x = p.1
    · rw [if_pos same.symm, if_pos ⟨same, rfl⟩, Nat.max_comm]
    · rw [if_neg (Ne.symm same), if_neg (fun both => same both.1), Nat.zero_max]

/-- No count that a candidate was put back with is larger than the one recorded. -/
theorem le_recorded (back : .requeue (c, attempts) true ∈ sinceDrain log) :
    attempts.toNat + 1 ≤ recorded c log := by
  unfold recorded
  generalize sinceDrain log = calls at back ⊢
  induction calls with
  | nil => cases back
  | cons call rest ih =>
    show _ ≤ max (call.failures c) _
    rcases List.mem_cons.mp back with rfl | later
    · refine Nat.le_trans (Nat.le_of_eq ?_) (Nat.le_max_left _ _)
      exact (if_pos rfl).symm
    · exact Nat.le_trans (ih later) (Nat.le_max_right _ _)

/-- What the calls since the last drain tell about the queue. -/
structure Tracks (log : List Call) (q : Queue) : Prop where
  waiting : ∀ c, q.contains c = true ↔ Entered c log
  counted : ∀ c, ((q.attempts? c).getD 0).toNat = recorded c log

theorem tracks_new (maxAttempts : UInt32) : Tracks [] (new maxAttempts) := by
  refine ⟨fun c => ⟨fun impossible => ?_, ?_⟩, fun c => rfl⟩
  · cases impossible
  · rintro (impossible | ⟨attempts, impossible⟩) <;> cases impossible

theorem tracks_drain (log : List Call) (q : Queue) : Tracks (.drain q.drain.2 :: log) q.drain.1 := by
  refine ⟨fun c => ⟨fun impossible => ?_, fun entered => ?_⟩, fun c => rfl⟩
  · cases impossible
  · exact absurd entered (not_entered_drain _)

/-- A fresh detection never resets a count. -/
theorem Tracks.enqueue (tracks : Tracks log q) (c : Candidate) :
    Tracks (.enqueue c (q.enqueue c).2 :: log) (q.enqueue c).1 := by
  refine ⟨fun x => ?_, fun x => ?_⟩
  · rw [entered_enqueue, ← tracks.waiting x, contains_enqueue, enqueue_snd]
    constructor
    · rintro (rfl | held)
      · cases held : q.contains x with
        | true => exact Or.inr rfl
        | false => exact Or.inl ⟨rfl, rfl⟩
      · exact Or.inr held
    · rintro (⟨rfl, -⟩ | held)
      · exact Or.inl rfl
      · exact Or.inr held
  · rw [recorded_enqueue, ← tracks.counted x, attempts?_enqueue]
    by_cases same : x = c
    · rw [if_pos same, same, Option.getD_some]
    · rw [if_neg same]

/-- Of two counts the larger one stays. -/
theorem Tracks.requeue (tracks : Tracks log q) {p : Pending} (left : p.2 < limit) :
    Tracks (.requeue p (q.requeue p.1 p.2).2 :: log) (q.requeue p.1 p.2).1 := by
  refine ⟨fun x => ?_, fun x => ?_⟩
  · rw [entered_requeue, ← tracks.waiting x, contains_requeue]
  · rw [recorded_requeue, ← tracks.counted x, attempts?_requeue]
    by_cases back : x = p.1 ∧ (q.requeue p.1 p.2).2 = true
    · rw [if_pos back, if_pos back, back.1, Option.getD_some, UInt32.toNat_max,
        toNat_add_one_of_lt left]
    · rw [if_neg back, if_neg back]

/-! ### What holds after every history -/

namespace History

theorem bounded (history : History maxAttempts log q) : q.Bounded (max maxAttempts 1) := by
  induction history with
  | start => exact Bounded.new maxAttempts
  | enqueue _ c ih => exact ih.enqueue (limit_pos maxAttempts) c
  | requeue _ p _ ih => exact ih.requeue p.1 p.2
  | drain _ ih => exact ih.drain

/-- What a drain returned has attempts left. -/
theorem returned_lt (history : History maxAttempts log q) (returned : Returned log p) :
    p.2 < max maxAttempts 1 := by
  obtain ⟨batch, drained, listed⟩ := returned
  induction history with
  | start => cases drained
  | enqueue _ c ih => exact ih ((List.mem_cons.mp drained).resolve_left nofun)
  | requeue _ p _ ih => exact ih ((List.mem_cons.mp drained).resolve_left nofun)
  | drain earlier ih =>
    rcases List.mem_cons.mp drained with same | before
    · cases same
      exact earlier.bounded.below p listed
    · exact ih before

theorem tracks (history : History maxAttempts log q) : Tracks log q := by
  induction history with
  | start => exact tracks_new maxAttempts
  | enqueue _ c ih => exact ih.enqueue c
  | requeue earlier p returned ih => exact ih.requeue (earlier.returned_lt returned)
  | drain _ _ => exact tracks_drain _ _

/-- An earlier moment of a history. -/
theorem exists_earlier (history : History maxAttempts log q) {past : List Call}
    (earlier : past <:+ log) : ∃ before, History maxAttempts past before := by
  induction history with
  | start =>
    rw [List.suffix_nil.mp earlier]
    exact ⟨_, .start⟩
  | enqueue before c ih =>
    rcases List.suffix_cons_iff.mp earlier with rfl | older
    · exact ⟨_, before.enqueue c⟩
    · exact ih older
  | requeue before p returned ih =>
    rcases List.suffix_cons_iff.mp earlier with rfl | older
    · exact ⟨_, before.requeue p returned⟩
    · exact ih older
  | drain before ih =>
    rcases List.suffix_cons_iff.mp earlier with rfl | older
    · exact ⟨_, before.drain⟩
    · exact ih older

/-- A drained candidate waited with its count before. -/
theorem attempts?_of_drained {batch : List Pending}
    (history : History maxAttempts (.drain batch :: log) q) (returned : (c, attempts) ∈ batch) :
    ∃ before, History maxAttempts log before ∧ before.attempts? c = some attempts := by
  cases history with
  | drain earlier => exact ⟨_, earlier, (attempts?_eq_some_iff earlier.bounded).mpr returned⟩

/-- A candidate that was found waiting when it was added has been entered before. -/
theorem entered_of_enqueue (history : History maxAttempts log q)
    (added : .enqueue c fresh ∈ sinceDrain log) : Entered c log := by
  induction history with
  | start => cases added
  | @enqueue log q earlier d ih =>
    rw [entered_enqueue]
    rcases List.mem_cons.mp added with same | before
    · cases same
      by_cases held : q.contains c = true
      · exact Or.inr ((earlier.tracks.waiting c).mp held)
      · refine Or.inl ⟨rfl, ?_⟩
        rw [enqueue_snd, Bool.eq_false_iff.mpr held]
        rfl
    · exact Or.inr (ih before)
  | requeue _ p _ ih =>
    rcases List.mem_cons.mp added with impossible | before
    · cases impossible
    · exact entered_requeue.mpr (Or.inr (ih before))
  | drain _ _ => cases added

end History

/-! ### Failing in one round after the other -/

/-- A drain returns a candidate, it is put back with its count, the next drain returns it again, and so on.
The list has the counts it was returned with, the last one first. -/
inductive Chain (c : Candidate) : List Call → List UInt32 → Prop
  | first {batch : List Pending} {log : List Call} {n : UInt32} (returned : (c, n) ∈ batch) :
      Chain c (.drain batch :: log) [n]
  | again {batch : List Pending} {log between later : List Call} {n next : UInt32}
      {counts : List UInt32} (round : Chain c log (n :: counts))
      (undrained : ∀ taken, .drain taken ∉ later) (returned : (c, next) ∈ batch) :
      Chain c (.drain batch :: (later ++ .requeue (c, n) true :: (between ++ log)))
        (next :: n :: counts)

theorem sinceDrain_cons {call : Call} (other : ∀ taken, call ≠ .drain taken) (log : List Call) :
    sinceDrain (call :: log) = call :: sinceDrain log := by
  cases call with
  | drain taken => exact absurd rfl (other taken)
  | enqueue c fresh => rfl
  | requeue p kept => rfl

/-- A call stays in view until the next drain. -/
theorem mem_sinceDrain {later : List Call} {call : Call} (undrained : ∀ taken, .drain taken ∉ later)
    (other : ∀ taken, call ≠ .drain taken) (log : List Call) :
    call ∈ sinceDrain (later ++ call :: log) := by
  induction later with
  | nil =>
    rw [List.nil_append, sinceDrain_cons other]
    exact List.mem_cons_self
  | cons newer rest ih =>
    have before := ih fun taken listed => undrained taken (List.mem_cons_of_mem _ listed)
    rw [List.cons_append, sinceDrain_cons (by rintro taken rfl; exact undrained taken List.mem_cons_self)]
    exact List.mem_cons_of_mem _ before

namespace Chain

variable {n : UInt32} {counts : List UInt32}

/-- **The count of a candidate grows with each failed round.** -/
theorem ascending (chain : Chain c log counts) (history : History maxAttempts log q) :
    counts.Pairwise (· > ·) := by
  induction chain generalizing q with
  | first returned => exact List.pairwise_singleton _ _
  | @again batch log between later n next counts round undrained returned ih =>
    have past : log <:+ .drain batch :: (later ++ .requeue (c, n) true :: (between ++ log)) :=
      (List.suffix_append between log).trans <| (List.suffix_cons _ _).trans <|
        (List.suffix_append later _).trans (List.suffix_cons _ _)
    obtain ⟨start, before⟩ := history.exists_earlier past
    have older := ih before
    obtain ⟨waiting, drained, waits⟩ := history.attempts?_of_drained returned
    have more : n < next := by
      have put : .requeue (c, n) true ∈ sinceDrain (later ++ .requeue (c, n) true :: (between ++ log)) :=
        mem_sinceDrain undrained (fun _ => Call.noConfusion) _
      have least := le_recorded put
      rw [← drained.tracks.counted c, waits, Option.getD_some] at least
      exact UInt32.lt_iff_toNat_lt.mpr least
    refine List.pairwise_cons.mpr ⟨fun m listed => ?_, older⟩
    rcases List.mem_cons.mp listed with rfl | earlier
    · exact more
    · exact UInt32.lt_trans ((List.pairwise_cons.mp older).1 m earlier) more

/-- The last count of a chain is one that a drain returned. -/
theorem returned (chain : Chain c log (n :: counts)) : Returned log (c, n) := by
  cases chain with
  | first listed => exact ⟨_, List.mem_cons_self, listed⟩
  | again _ _ listed => exact ⟨_, List.mem_cons_self, listed⟩

end Chain

/-- Falling counts are at least as large as there are counts after them. -/
theorem length_le_of_falling {n : UInt32} {counts : List UInt32}
    (falling : (n :: counts).Pairwise (· > ·)) : counts.length ≤ n.toNat := by
  induction counts generalizing n with
  | nil => exact Nat.zero_le _
  | cons m rest ih =>
    obtain ⟨less, falling⟩ := List.pairwise_cons.mp falling
    have step : m.toNat < n.toNat := UInt32.lt_iff_toNat_lt.mp (less m List.mem_cons_self)
    exact Nat.lt_of_le_of_lt (ih falling) step

/-- **A candidate fails in as many rounds as it has attempts, at most.** -/
theorem Chain.length_le {counts : List UInt32} (chain : Chain c log counts)
    (history : History maxAttempts log q) : counts.length ≤ (max maxAttempts 1).toNat := by
  have falling := chain.ascending history
  cases counts with
  | nil => exact Nat.zero_le _
  | cons n earlier =>
    have below := UInt32.lt_iff_toNat_lt.mp (history.returned_lt chain.returned)
    exact Nat.lt_of_le_of_lt (length_le_of_falling falling) below

/-- **The last of these rounds drops it.** -/
theorem Chain.requeue_last {n : UInt32} {counts past : List _} (chain : Chain c past (n :: counts))
    (history : History maxAttempts log q) (earlier : past <:+ log)
    (last : (n :: counts).length = (max maxAttempts 1).toNat) : q.requeue c n = (q, false) := by
  obtain ⟨before, old⟩ := history.exists_earlier earlier
  have least := length_le_of_falling (chain.ascending old)
  have count := toNat_add_one_of_lt (old.returned_lt chain.returned)
  refine if_pos ?_
  rw [history.bounded.maxAttempts, UInt32.le_iff_toNat_le, count, ← last]
  exact Nat.succ_le_succ least

/-! ### The account -/

/-- The queue after a history, told by the calls and their answers. -/
structure Accounted (maxAttempts : UInt32) (log : List Call) (q : Queue) : Prop where
  /-- What waits was added or put back since the last drain. -/
  waiting : ∀ c, q.contains c = true ↔ Entered c log
  /-- It waits also where it was added again. -/
  found : ∀ c fresh, .enqueue c fresh ∈ sinceDrain log → q.contains c = true
  /-- The next drain returns what waits once each, and nothing else. -/
  returned : ∀ c, (q.drain.2.map Prod.fst).count c = if q.contains c then 1 else 0
  emptied : ∀ c, q.drain.1.contains c = false
  /-- It is returned with the largest count that it was put back with. -/
  counted : ∀ p ∈ q.drain.2, p.2.toNat = recorded p.1 log
  /-- A fresh detection of any candidate resets no count. -/
  kept : ∀ c attempts fresh,
    q.attempts? c = some attempts → (q.enqueue fresh).1.attempts? c = some attempts
  /-- What waits has attempts left, -/
  below : ∀ p ∈ q.pending, p.2 < max maxAttempts 1
  /-- so the count of a candidate that may be put back can be counted on. -/
  countable : ∀ p, Returned log p → p.2.toNat + 1 < UInt32.size
  /-- It is put back unless the attempt that failed was its last. -/
  again : ∀ p, Returned log p →
    ((q.requeue p.1 p.2).2 = true ↔ p.2.toNat + 1 < (max maxAttempts 1).toNat)
  /-- Counts grow with the rounds that a candidate fails in, so there are as many as attempts at most, -/
  rounds : ∀ c past counts, past <:+ log → Chain c past counts →
    counts.Pairwise (· > ·) ∧ counts.length ≤ (max maxAttempts 1).toNat
  /-- and the last one drops it. -/
  dropped : ∀ c past n counts, past <:+ log → Chain c past (n :: counts) →
    (n :: counts).length = (max maxAttempts 1).toNat → q.requeue c n = (q, false)

/-- **Nothing is lost, doubled or tried without end**, in every order of the calls. -/
theorem History.accounted (history : History maxAttempts log q) : Accounted maxAttempts log q where
  waiting := history.tracks.waiting
  found c _ added := (history.tracks.waiting c).mpr (history.entered_of_enqueue added)
  returned c := by
    show (q.pending.map Prod.fst).count c = _
    rw [List.Nodup.count history.bounded.distinct]
    exact if_congr contains_iff.symm rfl rfl
  emptied _ := rfl
  counted p drained := by
    have waits := (attempts?_eq_some_iff history.bounded).mpr drained
    rw [← history.tracks.counted, waits, Option.getD_some]
  kept c attempts fresh waits := by
    rw [attempts?_enqueue]
    by_cases same : c = fresh
    · rw [if_pos same, ← same, waits, Option.getD_some]
    · rw [if_neg same, waits]
  below := history.bounded.below
  countable p returned := by
    have count := toNat_add_one_of_lt (history.returned_lt returned)
    rw [← count]
    exact UInt32.toNat_lt _
  again p returned := by
    rw [requeue_snd]
    exact history.bounded.retries_iff (history.returned_lt returned)
  rounds c past counts earlier chain := by
    obtain ⟨before, old⟩ := history.exists_earlier earlier
    exact ⟨chain.ascending old, chain.length_le old⟩
  dropped c past n counts earlier chain last := chain.requeue_last history earlier last

/-- A candidate is returned, found again while it is looked up, put back, returned again and dropped. -/
def retriedTwice (c : Candidate) : List Call :=
  [.requeue (c, 1) false, .drain [(c, 1)], .requeue (c, 0) true, .enqueue c true, .drain [(c, 0)],
    .enqueue c true]

/-- Two rounds with two attempts. -/
theorem accounted_retriedTwice :
    History 2 (retriedTwice ⟨"games", "*.a.com", "b.a.com"⟩) (new 2) ∧
      Accounted 2 (retriedTwice ⟨"games", "*.a.com", "b.a.com"⟩) (new 2) := by
  let c : Candidate := ⟨"games", "*.a.com", "b.a.com"⟩
  have first : History 2 [.drain [(c, 0)], .enqueue c true] (new 2) :=
    (History.start.enqueue c).drain
  have second : History 2 (.drain [(c, 1)] :: .requeue (c, 0) true :: .enqueue c true ::
      [.drain [(c, 0)], .enqueue c true]) (new 2) :=
    ((first.enqueue c).requeue (c, 0) ⟨[(c, 0)], by simp, by simp⟩).drain
  have all : History 2 (retriedTwice c) (new 2) := second.requeue (c, 1) ⟨[(c, 1)], by simp, by simp⟩
  exact ⟨all, all.accounted⟩

end Queue

end CategoryFilter
