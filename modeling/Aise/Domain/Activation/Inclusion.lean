import Aise.Domain.Activation.Reserve
import Aise.Domain.Activation.Traces

/-! Inclusion groups over whole runs. An entry becomes pending only as the winner of all its
groups, and a group keeps its winner, so no group is ever won by two activated entries. -/
namespace Aise.Domain
open Effect Transition KnowledgeActivationSession OrdMap

/-- The source belongs to the inclusion group. -/
def InGroup (request : ActivationRequest) (sourceId : KnowledgeSourceId)
    (group : ActivationGroupKey) : Prop :=
  ∃ metadata, request.metadata sourceId = some metadata ∧ group ∈ metadata.rule.selection.groups

instance decidableInGroup (request : ActivationRequest) (sourceId : KnowledgeSourceId)
    (group : ActivationGroupKey) : Decidable (InGroup request sourceId group) :=
  decidable_of_iff ((request.metadata sourceId).any fun metadata =>
    metadata.rule.selection.groups.contains group) (by simp [InGroup, Option.any_eq_true])

section
variable {request : ActivationRequest} {externals : Externals}
  {allow : Refusal → KnowledgeSourceId → Activated → Prop} {s t : Standing}

/-- Every source that is pending or activated has won all of its groups. -/
structure Standing.Exclusive (request : ActivationRequest) (s : Standing) : Prop where
  pending : ∀ sourceId ∈ s.pending, ∀ group, InGroup request sourceId group →
    s.groupWinners[group]? = some sourceId
  activated : ∀ sourceId ∈ s.activated, ∀ group, InGroup request sourceId group →
    s.groupWinners[group]? = some sourceId

theorem RoundChange.exclusive (change : RoundChange request externals allow s t)
    (exclusive : s.Exclusive request) : t.Exclusive request := by
  cases change with
  | decide winners keeps =>
    exact ⟨fun sourceId member group belongs => keeps _ _ (exclusive.pending sourceId member group belongs),
      fun sourceId member group belongs => keeps _ _ (exclusive.activated sourceId member group belongs)⟩
  | extend sourceId existing call usage found =>
    refine ⟨exclusive.pending, fun other member => exclusive.activated other ?_⟩
    exact Std.ExtTreeMap.mem_modify.mp member
  | enter metadata candidate entrant =>
    refine ⟨fun sourceId member group belongs => ?_, exclusive.activated⟩
    rcases Std.ExtTreeMap.mem_insert.mp member with here | before
    · have same : candidate.sourceId = sourceId := Std.compare_eq_iff_eq.mp here
      subst same
      exact entrant.wins group (mem_groupsOf.mpr belongs)
    · exact exclusive.pending sourceId before group belongs
  | _ => exact ⟨exclusive.pending, exclusive.activated⟩

theorem BodyChange.exclusive (change : BodyChange request s t)
    (exclusive : s.Exclusive request) : t.Exclusive request := by
  have fewer (erased : KnowledgeSourceId) : ∀ sourceId ∈ s.pending.erase erased, ∀ group,
      InGroup request sourceId group → s.groupWinners[group]? = some sourceId :=
    fun sourceId member => exclusive.pending sourceId (Std.ExtTreeMap.mem_of_mem_erase member)
  cases change with
  | lose sourceId => exact ⟨fewer sourceId, exclusive.activated⟩
  | drop sourceId => exact ⟨fewer sourceId, exclusive.activated⟩
  | activate metadata candidate body call usage evidence found =>
    refine ⟨fewer body.sourceId, fun sourceId member group belongs => ?_⟩
    rcases Std.ExtTreeMap.mem_insert.mp member with here | before
    · have same : body.sourceId = sourceId := Std.compare_eq_iff_eq.mp here
      subst same
      exact exclusive.pending body.sourceId (mem_iff_exists.mpr ⟨candidate, found⟩) group belongs
    · exact exclusive.activated sourceId before group belongs

theorem Change.exclusive (change : Change request externals allow s t)
    (exclusive : s.Exclusive request) : t.Exclusive request := by
  cases change with
  | round change => exact change.exclusive exclusive
  | body change => exact change.exclusive exclusive
  | recursion change => cases change <;> exact ⟨exclusive.pending, exclusive.activated⟩

/-- No change touches the index a session was started with. -/
theorem Change.indexSnapshot (change : Change request externals allow s t) :
    t.indexSnapshot = s.indexSnapshot := by
  cases change with
  | round change => cases change <;> rfl
  | body change => cases change <;> rfl
  | recursion change => cases change <;> rfl

end

namespace Live
variable {externals : Externals} {live next : Live}

/-- A step of a run in which a reference names one index: a session is resumed with the index
it had when the references agree, which `start` checks. -/
def NamedStep (externals : Externals) (live next : Live) : Prop :=
  Step externals live next ∧
    (next.request.indexSnapshot.reference = live.request.indexSnapshot.reference →
      next.request.indexSnapshot = live.request.indexSnapshot)

/-- The groups are exclusive, in a session that has the index of its request. -/
structure Exclusive (live : Live) : Prop where
  indexed : live.session.continuation.indexSnapshot = live.request.indexSnapshot.reference
  groups : live.session.standing.Exclusive live.request

theorem opens_exclusive (opens : live.Opens) : live.Exclusive := by
  have chosen := opens.continuation
  have opened := start_started opens.2
  refine ⟨by rw [chosen]; rfl, fun sourceId member => ?_, fun sourceId member => ?_⟩
  · simp [standing, opened.pending] at member
  · simp [standing, chosen, newContinuation] at member

theorem resumed_exclusive (exclusive : live.Exclusive)
    (named : next.request.indexSnapshot.reference = live.request.indexSnapshot.reference →
      next.request.indexSnapshot = live.request.indexSnapshot)
    {result : ActivationResult} (finished : finish live.request live.session = .ok result)
    (continues : next.request.continuation = some result.continuation)
    (started : start next.request = .ok next.session) : next.Exclusive := by
  have opened := start_started started
  obtain ⟨⟨fresh, _⟩ | ⟨belongs, chosen⟩, _, _⟩ := start_ok started
  · rw [fresh] at continues
    cases continues
  · have same := Option.some.inj (chosen.symm.trans continues)
    rw [finish_ok finished] at same
    simp only [Domain.continues, Bool.and_eq_true, decide_eq_true_eq] at belongs
    have indexed := belongs.1.2
    have index : next.request.indexSnapshot = live.request.indexSnapshot := by
      apply named
      rw [← indexed, ← exclusive.indexed, same]
      rfl
    refine ⟨indexed, fun sourceId member => ?_, fun sourceId member group belongs => ?_⟩
    · simp [standing, opened.pending] at member
    · obtain ⟨entry, found⟩ := mem_iff_exists.mp member
      simp only [standing, same] at found ⊢
      obtain ⟨rank, stored⟩ := finalContinuation_activated found
      have grouped : InGroup live.request sourceId group := by
        rw [InGroup, ActivationRequest.metadata, ← index]
        exact belongs
      exact exclusive.groups.activated sourceId (mem_iff_exists.mpr ⟨_, stored⟩) group grouped

theorem step_exclusive (exclusive : live.Exclusive) (step : NamedStep externals live next) :
    next.Exclusive := by
  rcases step_traces step.1 (nextAllowed_of_forall (fun _ _ _ => trivial) live) with
    ⟨same, trace⟩ | ⟨result, finished, continues, started⟩
  · obtain ⟨index, groups⟩ := Transition.invariant
      (P := fun t => t.indexSnapshot = live.session.standing.indexSnapshot ∧ t.Exclusive live.request)
      (fun held change => ⟨change.indexSnapshot.trans held.1, change.exclusive held.2⟩) trace
      ⟨rfl, exclusive.groups⟩
    exact ⟨by rw [same]; exact index.trans exclusive.indexed, by rw [same]; exact groups⟩
  · exact resumed_exclusive exclusive step.2 finished continues started

end Live

/-- The session with the losers of a call rejected. -/
def rejectLosers (session : KnowledgeActivationSession) (losers : List Candidate) :
    KnowledgeActivationSession :=
  losers.foldl (fun session candidate => session.reject candidate.sourceId .groupLoser) session

/-- What a call of `resolve_groups` does: its loop ends, a group that gets a new winner gets a
candidate that survives, and whoever is rejected was turned out for another candidate. -/
structure Resolution (request : ActivationRequest) (externals : Externals)
    (candidates : List Candidate) (session : KnowledgeActivationSession) (eligible : List Candidate)
    (next : KnowledgeActivationSession) : Prop where
  terminates : ∃ rounds, rounds ≤ candidates.length + 1 ∧
    Loop.Ends (elimination request externals session.continuation.groupWinners candidates)
      (candidates, session.continuation.groupWinners) rounds
      (eligible, next.continuation.groupWinners)
  elects : ∀ (group : ActivationGroupKey) (winner : KnowledgeSourceId),
    session.continuation.groupWinners[group]? = none →
      next.continuation.groupWinners[group]? = some winner →
        candidates.any (·.sourceId = winner) ∧ Elected request eligible group winner
  rejects : ∃ losers : List Candidate,
    next = rejectLosers
      { session with continuation.groupWinners := next.continuation.groupWinners } losers ∧
    ∀ candidate ∈ losers, candidate ∈ candidates ∧
      Ousted request externals session.continuation.groupWinners candidates candidate

theorem rejectLosers_winners (session : KnowledgeActivationSession) (losers : List Candidate) :
    (rejectLosers session losers).continuation.groupWinners = session.continuation.groupWinners := by
  refine Loop.foldl_keeps (fun session : KnowledgeActivationSession =>
    session.continuation.groupWinners) ?_ session losers
  intro session candidate
  rfl

theorem resolveGroups_resolves (request : ActivationRequest) (externals : Externals)
    (candidates : List Candidate) (session : KnowledgeActivationSession) :
    ∃ eligible next, resolveGroups request externals candidates session = .ok eligible next ∧
      Resolution request externals candidates session eligible next := by
  let decided := session.continuation.groupWinners
  let left := survivors request externals decided candidates
  let losers := candidates.filter fun candidate => !(groupsOf request candidate).isEmpty &&
    !left.1.any fun item => item.sourceId = candidate.sourceId
  have settled : Settled request decided candidates left := survivors_settled decided candidates
  have kept : (rejectLosers { session with continuation.groupWinners := left.2 }
      losers).continuation.groupWinners = left.2 := rejectLosers_winners _ losers
  refine ⟨left.1, rejectLosers { session with continuation.groupWinners := left.2 } losers, rfl,
    ?_, fun group winner undecided won => ?_, losers, ?_, fun candidate member => ?_⟩
  · rw [kept]
    exact survivors_end request externals decided candidates
  · rw [kept] at won
    obtain ⟨rival, among, same, belongs⟩ := survivors_elected undecided won
    have listed := settled.among.subset among
    exact ⟨List.any_eq_true.mpr ⟨rival, listed, by simpa using same⟩, rival, among, same, belongs⟩
  · rw [kept]
  · obtain ⟨listed, out⟩ := List.mem_filter.mp member
    simp only [Bool.and_eq_true, Bool.not_eq_true', List.isEmpty_eq_false_iff, List.any_eq_false,
      decide_eq_true_eq] at out
    exact ⟨listed, survivors_oust listed out.1 fun survives => out.2 candidate survives rfl⟩

/-- No two activated entries of a run share a group. In every call of `resolve_groups` the
elimination ends, every choice has a winner, new winners survive and losers lost to another. -/
theorem groups_exclusive {externals : Externals} {first live : Live} (opens : first.Opens)
    (run : Reaches (Live.NamedStep externals) first live) :
    (∀ one ∈ live.session.continuation.activated, ∀ two ∈ live.session.continuation.activated,
      ∀ group, InGroup live.request one group → InGroup live.request two group → one = two) ∧
    ∀ (request : ActivationRequest) (session : KnowledgeActivationSession),
      (∀ (group : ActivationGroupKey) (choices : List Candidate), choices ≠ [] →
        (∀ candidate ∈ choices, group ∈ groupsOf request candidate) →
          ∃ winner ∈ choices, groupWinner request externals group choices = some winner) ∧
      ∀ candidates : List Candidate, ∃ eligible next,
        resolveGroups request externals candidates session = .ok eligible next ∧
          Resolution request externals candidates session eligible next := by
  have exclusive := Transition.invariant (P := Live.Exclusive) Live.step_exclusive run
    (Live.opens_exclusive opens)
  refine ⟨fun one first two second group grouped shared => ?_, fun request session =>
    ⟨fun group choices nonempty belong => ?_, fun candidates =>
      resolveGroups_resolves request externals candidates session⟩⟩
  · have won := exclusive.groups.activated one first group grouped
    have also := exclusive.groups.activated two second group shared
    exact Option.some.inj (won.symm.trans also)
  · obtain ⟨candidate, member⟩ := List.exists_mem_of_ne_nil _ nonempty
    exact groupWinner_some externals group member (groupKey_isSome (belong candidate member))

namespace Inclusion.Sample
open Reserve.Sample (externals lore legend story blank entry)

def crew : ActivationGroupKey := ⟨"crew"⟩

/-- An entry that is always a candidate, but only as the one of its group. -/
def rival (sourceId : KnowledgeSourceId) : ActivationEntryMetadata :=
  { entry sourceId .normal with
    rule := { (entry sourceId .normal).rule with selection := { groups := [crew] } } }

def request : ActivationRequest :=
  { Reserve.Sample.request with
    indexSnapshot := .new ⟨story, blank, 0, 0, matcherVersion⟩
      ((Std.ExtTreeMap.insert ∅ lore (rival lore)).insert legend (rival legend)) {} {} {} {} }

def opened : Live where
  request := request
  session := {
    continuation := newContinuation request
    timedValid := ∅
    timedDelta := {}
    rejections := fun _ => none
    budget := (newContinuation request).usage
    state := .initial }

def round : Live :=
  { opened with
    session := after (KnowledgeActivationSession.nextRound request externals opened.session) }

def supplied : Live :=
  { round with
    session := after (KnowledgeActivationSession.supplyBodies request externals
      [⟨lore, .fact, 10, ⟨"told"⟩⟩] round.session) }

/-- One of two rivals is activated and the other one turned down. -/
theorem one_of_two_rivals :
    lore ∈ supplied.session.continuation.activated ∧
      supplied.session.continuation.terminalRejections[legend]? = some .groupLoser ∧
      ∀ other ∈ supplied.session.continuation.activated, InGroup request other crew →
        lore = other := by
  have steps : Reaches (Live.NamedStep externals) opened supplied :=
    .tail (.single ⟨.nextRound opened, fun _ => rfl⟩) ⟨.supplyBodies round _, fun _ => rfl⟩
  have member : lore ∈ supplied.session.continuation.activated := by decide +kernel
  refine ⟨member, by decide +kernel, fun other also grouped => ?_⟩
  have opens : opened.Opens := ⟨rfl, rfl⟩
  exact (groups_exclusive opens steps).1 lore member other also crew (by decide +kernel) grouped

end Inclusion.Sample

end Aise.Domain
