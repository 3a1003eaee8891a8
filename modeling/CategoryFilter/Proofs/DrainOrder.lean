/-
**The order in which a drain lists the candidates does not matter.**

The candidates of a batch are different, so there is one way to sort them, whichever way they are listed:

* `sortPending_congr`: two listings of the same candidates sort to the same batch.
* `sorted_groupByCategory`: the groups of a batch are its candidates, each once and in their order.
* `confirm_sending`: a source that answers for the set of digests in a request gives the same confirmation
  in whichever order they are sent.
* `State.confirmQueued_unordered`: so a confirmation of the queue ends in the same state, with the same
  report.
-/

import CategoryFilter.Proofs.Confirm.Agreement
import CategoryFilter.Proofs.Examiner.Confirmation
import CategoryFilter.Proofs.QueueHistory

namespace CategoryFilter

variable {batch pending : List Pending}

/-! ### One way to sort -/

theorem perm_sortPending (batch : List Pending) : (sortPending batch).Perm batch :=
  List.mergeSort_perm batch _

/-- Different candidates ascend once they are sorted. -/
theorem ascending_sortPending (distinct : (batch.map Prod.fst).Nodup) :
    (sortPending batch).Pairwise fun p q => p.1.before q.1 = true := by
  have different : (sortPending batch).Pairwise fun p q => p.1 ≠ q.1 :=
    List.pairwise_map.mp (((perm_sortPending batch).map Prod.fst).nodup_iff.mpr distinct)
  refine (ordered_sortPending batch).imp₂ (fun p q notAfter other => ?_) different
  exact (Candidate.before_or_before other).resolve_right notAfter

/-- **Two listings of the same candidates sort to the same batch.** -/
theorem sortPending_congr (distinct : (batch.map Prod.fst).Nodup) (same : pending.Perm batch) :
    sortPending pending = sortPending batch := by
  have listed : (pending.map Prod.fst).Nodup := (same.map Prod.fst).nodup_iff.mpr distinct
  refine List.Perm.eq_of_pairwise ?_ (ascending_sortPending listed) (ascending_sortPending distinct)
    ((perm_sortPending pending).trans (same.trans (perm_sortPending batch).symm))
  exact fun p q _ _ first second =>
    absurd (Candidate.before_trans first second) (Candidate.before_irrefl _)

theorem groupByCategory_congr (distinct : (batch.map Prod.fst).Nodup) (same : pending.Perm batch) :
    groupByCategory pending = groupByCategory batch := by
  rw [groupByCategory_eq, groupByCategory_eq, sortPending_congr distinct same]

/-- Two listings have the same candidates with the same counts if they agree on the count of each. -/
theorem perm_iff_lookup (distinct : (batch.map Prod.fst).Nodup) : pending.Perm batch ↔
    (pending.map Prod.fst).Nodup ∧ ∀ c, pending.lookup c = batch.lookup c := by
  constructor
  · intro same
    have listed : (pending.map Prod.fst).Nodup := (same.map Prod.fst).nodup_iff.mpr distinct
    exact ⟨listed, fun c => lookup_eq_of_perm listed same⟩
  · rintro ⟨listed, same⟩
    refine (List.perm_ext_iff_of_nodup (listed.of_map _) (distinct.of_map _)).mpr fun p => ?_
    obtain ⟨c, attempts⟩ := p
    rw [← lookup_eq_some_iff listed, ← lookup_eq_some_iff distinct, same c]

/-! ### The groups of a batch -/

/-- The candidates of a batch, each once: the categories ascend, and so do the candidates of each. -/
structure SortedGroups (batch : List Pending) (groups : List (String × List Pending)) : Prop where
  ascending : (groups.map Prod.fst).Pairwise (· < ·)
  exact : ∀ g ∈ groups, g.2 ≠ [] ∧ ∀ p, p ∈ g.2 ↔ p ∈ batch ∧ p.1.category = g.1
  sorted : ∀ g ∈ groups, g.2.Pairwise fun p q =>
    p.1.pattern < q.1.pattern ∨ p.1.pattern = q.1.pattern ∧ p.1.origin < q.1.origin
  whole : (groups.flatMap Prod.snd).Perm batch

theorem sorted_groupByCategory (distinct : (batch.map Prod.fst).Nodup) :
    SortedGroups batch (groupByCategory batch) := by
  have grouped := grouped_groupByCategory batch
  have mem : ∀ g ∈ groupByCategory batch, ∀ p, p ∈ g.2 ↔ p ∈ batch ∧ p.1.category = g.1 := by
    intro g there p
    rw [(grouped.exact g there).1, ofCategory, List.mem_filter, mem_sortPending, decide_eq_true_eq]
  refine ⟨grouped.ascending, fun g there => ⟨(grouped.exact g there).2, mem g there⟩,
    fun g there => ?_, ?_⟩
  · have ascending : g.2.Pairwise fun p q => p.1.before q.1 = true := by
      rw [(grouped.exact g there).1]
      exact (ascending_sortPending distinct).filter _
    refine ascending.imp_of_mem fun {p q} first second before => ?_
    have same : p.1.category = q.1.category :=
      ((mem g there p).mp first).2.trans ((mem g there q).mp second).2.symm
    rcases Candidate.before_iff.mp before with less | ⟨-, later⟩
    · rw [same] at less
      exact absurd less (String.lt_irrefl _)
    · exact later
  · rw [flatMap_groupByCategory]
    exact perm_sortPending batch

/-! ### Sources that answer for a set -/

namespace Services

/-- The services, with the digests of a request sent in some order. -/
def sending (services : Services) (order : MembershipRequest → List String) : Services :=
  { services with
    membership := fun category request =>
      services.membership category { request with domains := order request } }

/-- The answer to a request depends on the set of its digests only. -/
def AnswersSets (services : Services) : Prop :=
  ∀ (category id : String) (first second : List String), first.Perm second →
    services.membership category ⟨id, first⟩ = services.membership category ⟨id, second⟩

variable {services : Services} {order : MembershipRequest → List String}

theorem AnswersSets.membership_sending (sets : services.AnswersSets)
    (same : ∀ request, (order request).Perm request.domains) (category : String)
    (request : MembershipRequest) :
    (services.sending order).membership category request = services.membership category request :=
  sets category request.id _ _ (same request)

/-- **The order of the digests does not matter.** -/
theorem confirm_sending (sets : services.AnswersSets)
    (same : ∀ request, (order request).Perm request.domains) :
    Confirm.confirm (services.sending order) = Confirm.confirm services := by
  funext category source style keys
  exact Confirm.confirm_congr ⟨fun _ _ => rfl, fun request _ => sets.membership_sending same category request,
    fun _ _ _ => rfl, fun _ _ => rfl⟩

end Services

namespace State

open Services (sending)

variable {services other : Services}

theorem confirmGroup_congr (same : Confirm.confirm other = Confirm.confirm services) (clock : Clock) :
    confirmGroup other clock = confirmGroup services clock := by
  funext ⟨s, report⟩ group
  have category : s.confirmCategory other clock group.1 group.2 =
      s.confirmCategory services clock group.1 group.2 := by
    unfold confirmCategory
    rw [same]
  unfold confirmGroup
  dsimp only
  rw [category]

/-- The same candidates wait, listed in another way. -/
def listing (s : State) (pending : List Pending) : State :=
  s.withQueue { s.session.queue with pending := pending }

/-- **A confirmation of the queue does not depend on the order in which the candidates are listed**, nor on
the one in which their digests are sent. -/
theorem confirmQueued_unordered (s : State) (services : Services) (clock : Clock)
    (order : MembershipRequest → List String) (pending : List Pending)
    (distinct : (s.session.queue.pending.map Prod.fst).Nodup) (sets : services.AnswersSets)
    (same : ∀ request, (order request).Perm request.domains) :
    (pending.Perm s.session.queue.pending ↔
      (pending.map Prod.fst).Nodup ∧ ∀ c, pending.lookup c = s.session.queue.attempts? c) ∧
    (pending.Perm s.session.queue.pending →
      groupByCategory pending = groupByCategory s.session.queue.pending ∧
      SortedGroups s.session.queue.pending (groupByCategory pending) ∧
      (s.listing pending).confirmQueued (services.sending order) clock =
        s.confirmQueued services clock) := by
  refine ⟨perm_iff_lookup distinct, fun listed => ?_⟩
  have groups := groupByCategory_congr distinct listed
  refine ⟨groups, groups ▸ sorted_groupByCategory distinct, ?_⟩
  show (groupByCategory pending).foldl (confirmGroup (services.sending order) clock)
      (_, ⟨pending.length, 0, [], 0, 0⟩) = _
  rw [groups, confirmGroup_congr (Services.confirm_sending sets same), listed.length_eq]
  rfl

/-- Two candidates of one category and one of another wait. -/
def mixed : State :=
  let s := State.new { Config.standard with
    categories := [Definition.new "games", { Definition.new "news" with strategy := .file }] }
    Database.new
  s.listing [(⟨"games", "x.com", "a.x.com"⟩, 1), (⟨"news", "n.com", "n.com"⟩, 0),
    (⟨"games", "x.com", "x.com"⟩, 0)]

/-- A hash set that holds some digests, and no other source. -/
def holding (digests : List String) : Services where
  checkFilter _ := .error .http
  membership _ request := .ok ⟨some (digests.filter request.domains.contains)⟩
  intel _ _ _ := .error .http
  listFile _ := .error .notFound

theorem answersSets_holding (digests : List String) : (holding digests).AnswersSets := by
  intro _ id first second same
  have alike : first.contains = second.contains := by
    funext digest
    rw [Bool.eq_iff_iff, List.contains_iff_mem, List.contains_iff_mem, same.mem_iff]
  show Except.ok (MembershipResponse.mk (some (digests.filter first.contains))) = _
  rw [alike]
  rfl

/-- The candidates are listed and the digests sent the other way round. -/
theorem unordered_mixed :
    (mixed.session.queue.pending.map Prod.fst).Nodup ∧
      (holding [Domain.digest "x.com"]).AnswersSets ∧
      ∀ clock, (mixed.listing mixed.session.queue.pending.reverse).confirmQueued
          ((holding [Domain.digest "x.com"]).sending fun request => request.domains.reverse) clock =
        mixed.confirmQueued (holding [Domain.digest "x.com"]) clock := by
  have distinct : (mixed.session.queue.pending.map Prod.fst).Nodup := by decide +kernel
  have sets := answersSets_holding [Domain.digest "x.com"]
  refine ⟨distinct, sets, fun clock => ?_⟩
  have all := confirmQueued_unordered mixed _ clock (fun request => request.domains.reverse)
    mixed.session.queue.pending.reverse distinct sets fun request => List.reverse_perm _
  exact (all.2 (List.reverse_perm _)).2.2

end State

end CategoryFilter
