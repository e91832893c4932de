import Aise.Domain.Activation.Run
import Aise.Lib.Transition

/-! What a session can do to its own verdicts, one change at a time. Every operation of a
session is a sequence of these changes, so what each of them keeps holds in every run. -/
namespace Aise.Domain
open Effect Saturating

abbrev Activated := BTreeMap KnowledgeSourceId ActivatedKnowledgeRef

/-- Whether the sticky window of a stored state covers the turn. -/
def stickyNow (request : ActivationRequest)
    (timedValid : BTreeMap KnowledgeSourceId ActivationTimedState) (sourceId : KnowledgeSourceId) :
    Bool :=
  timedValid[sourceId]?.any fun state =>
    state.stickyThroughTurn.any fun through => through.get ≥ request.turnNumber.get

/-- The part of a session that decides its verdicts and its rounds; counters of work are left
out. -/
structure Standing where
  indexSnapshot : ActivationIndexSnapshotRef
  stage : Stage
  recursionSteps : UInt16
  depthExpansions : UInt16
  activated : Activated
  activatedEntries : UInt64
  terminalRejections : BTreeMap KnowledgeSourceId ActivationRejectionReason
  rejections : RejectionSummary
  groupWinners : GroupWinners
  recursionLevel : UInt16
  accumulatedMatches : BTreeMap KnowledgeSourceId (List FragmentPatternMatch)
  limits : ActivationRuntimeLimits
  timedValid : BTreeMap KnowledgeSourceId ActivationTimedState
  timedDelta : PendingActivationStateDelta
  budget : BudgetUsage
  recursionFragments : List ScanFragment
  recursionMatches : BTreeMap ScanFragmentId (List FragmentPatternMatch)
  pending : Candidates

def KnowledgeActivationSession.standing (session : KnowledgeActivationSession) : Standing where
  indexSnapshot := session.continuation.indexSnapshot
  stage := session.stage
  recursionSteps := session.continuation.consumed.recursionSteps
  depthExpansions := session.continuation.depthExpansions
  activated := session.continuation.activated
  activatedEntries := session.continuation.consumed.activatedEntries
  terminalRejections := session.continuation.terminalRejections
  rejections := session.rejections
  groupWinners := session.continuation.groupWinners
  recursionLevel := session.continuation.recursionLevel
  accumulatedMatches := session.continuation.accumulatedMatches
  limits := session.continuation.limits
  timedValid := session.timedValid
  timedDelta := session.timedDelta
  budget := session.budget
  recursionFragments := session.recursionFragments
  recursionMatches := session.recursionMatches
  pending := session.pending

namespace Standing

def reject (s : Standing) (sourceId : KnowledgeSourceId) (reason : ActivationRejectionReason) :
    Standing :=
  { s with
    terminalRejections := s.terminalRejections.insert sourceId reason
    rejections :=
      if s.terminalRejections.contains sourceId then s.rejections
      else increment s.rejections reason }

def accumulate (s : Standing) (item : FragmentPatternMatch) : Standing :=
  { s with
    accumulatedMatches := s.accumulatedMatches.insert item.sourceId
      (s.accumulatedMatches[item.sourceId]?.getD [] ++ [item]) }

/-- A match of a fragment the session looks at: one of the scan buffer, or one of its own
recursion fragments. -/
def Reads (request : ActivationRequest) (externals : Externals) (s : Standing)
    (item : FragmentPatternMatch) : Prop :=
  (∃ fragment ∈ request.scanBuffer.fragments, fragment.kind ≠ .recursionContent ∧
    ∃ items, request.fragmentMatches[fragment.id externals]? = some items ∧ item ∈ items) ∨
  ∃ fragment ∈ s.recursionFragments, ∃ items,
    s.recursionMatches[fragment.id externals]? = some items ∧ item ∈ items

/-- Every piece of evidence of a candidate is a match of its own that was accumulated. -/
def Supports (s : Standing) (candidate : Candidate) : Prop :=
  ∀ evidence ∈ candidate.evidence, ∃ items, s.accumulatedMatches[candidate.sourceId]? = some items ∧
    ∃ item ∈ items, evidence.fragmentKind = item.fragmentKind ∧
      evidence.recencyDepth = item.recencyDepth

end Standing

/-- The places where a round turns down a source that may be activated already. -/
inductive Refusal where
  | trimmed | unmatched | undelivered
  deriving DecidableEq

section
variable (request : ActivationRequest) (externals : Externals)
  (allow : Refusal → KnowledgeSourceId → Activated → Prop)

/-- What a candidate has passed when it becomes pending. -/
structure Entrant (s : Standing) (metadata : ActivationEntryMetadata) (candidate : Candidate) :
    Prop where
  known : request.metadata candidate.sourceId = some metadata
  inactive : s.activated[candidate.sourceId]? = none
  unrejected : s.terminalRejections[candidate.sourceId]? = none
  absent : s.pending[candidate.sourceId]? = none
  sticky : candidate.sticky = stickyNow request s.timedValid candidate.sourceId
  warm : candidate.sticky = false → ∀ state, s.timedValid[candidate.sourceId]? = some state →
    ∀ through, state.cooldownThroughTurn = some through → through.get < request.turnNumber.get
  wins : ∀ group ∈ groupsOf request candidate, s.groupWinners[group]? = some candidate.sourceId
  supported : s.Supports candidate

/-- One change made by a round. -/
inductive RoundChange : Standing → Standing → Prop where
  | ingest {s : Standing} (item : FragmentPatternMatch) (read : s.Reads request externals item) :
      RoundChange s (s.accumulate item)
  | shed {s : Standing} (sourceId : KnowledgeSourceId) (idle : s.pending = ∅)
      (allowed : allow .trimmed sourceId s.activated ∨ allow .unmatched sourceId s.activated) :
      RoundChange s (s.reject sourceId .workLimit)
  | tally {s : Standing} (reason : ActivationRejectionReason)
      (passing : reason = .secondaryCondition ∨ reason = .recursionLevelLocked) :
      RoundChange s { s with rejections := increment s.rejections reason }
  | undelivered {s : Standing} (sourceId : KnowledgeSourceId)
      (allowed : allow .undelivered sourceId s.activated) :
      RoundChange s { s with rejections := increment s.rejections .budget }
  | refuse {s : Standing} (sourceId : KnowledgeSourceId) (reason : ActivationRejectionReason)
      (inactive : s.activated[sourceId]? = none) (absent : s.pending[sourceId]? = none)
      (loose : reason = .probability ∨ reason = .cooldown →
        stickyNow request s.timedValid sourceId = false) :
      RoundChange s (s.reject sourceId reason)
  | decide {s : Standing} (winners : GroupWinners)
      (keeps : ∀ (group : ActivationGroupKey) (winner : KnowledgeSourceId),
        s.groupWinners[group]? = some winner → winners[group]? = some winner) :
      RoundChange s { s with groupWinners := winners }
  | extend {s : Standing} (sourceId : KnowledgeSourceId) (existing : ActivatedKnowledgeRef)
      (call : Admission) (usage : BudgetUsage) (found : s.activated[sourceId]? = some existing)
      (cost : call.tokenCost = existing.tokenCost) (current : call.usage = s.budget)
      (fresh : ∀ delivery ∈ call.deliveries, delivery ∉ existing.deliveries)
      (distinct : call.deliveries.Nodup)
      (admitted : admitDeliveries request.limits call = (.admitted, usage)) :
      RoundChange s
        { s with
          budget := usage
          activated := s.activated.modify sourceId fun existing =>
            { existing with deliveries := sortDedup (existing.deliveries ++ call.deliveries) } }
  | enter {s : Standing} (metadata : ActivationEntryMetadata) (candidate : Candidate)
      (entrant : Entrant request s metadata candidate) :
      RoundChange s { s with pending := s.pending.insert candidate.sourceId candidate }

/-- The standing once a pending candidate's body is admitted. -/
def Standing.activate (s : Standing) (metadata : ActivationEntryMetadata) (candidate : Candidate)
    (body : ActivationEntryBody) (deliveries : List KnowledgeDelivery)
    (evidence : List ActivationEvidence) (usage : BudgetUsage) : Standing :=
  { s with
    pending := s.pending.erase body.sourceId
    budget := usage
    activatedEntries := add s.activatedEntries 1
    activated := s.activated.insert body.sourceId {
      sourceId := body.sourceId
      deliveries := deliveries
      activationClass := candidate.candidateClass
      rank := 0
      tokenCost := body.tokenCost
      evidence := evidence
      ordering := activationOrdering request candidate }
    timedDelta :=
      if candidate.sticky then s.timedDelta
      else KnowledgeActivationSession.updateTimedState request metadata s.timedDelta }

/-- One change made by the bodies that are supplied, or not, for a round. -/
inductive BodyChange : Standing → Standing → Prop where
  | lose {s : Standing} (sourceId : KnowledgeSourceId) :
      BodyChange s { s with pending := s.pending.erase sourceId }
  | drop {s : Standing} (sourceId : KnowledgeSourceId) (candidate : Candidate)
      (reason : ActivationRejectionReason) (found : s.pending[sourceId]? = some candidate)
      (shortage : reason = .budget ∨ reason = .workLimit) :
      BodyChange s ({ s with pending := s.pending.erase sourceId }.reject sourceId reason)
  | activate {s : Standing} (metadata : ActivationEntryMetadata) (candidate : Candidate)
      (body : ActivationEntryBody) (call : Admission) (usage : BudgetUsage)
      (evidence : List ActivationEvidence) (found : s.pending[body.sourceId]? = some candidate)
      (known : request.metadata body.sourceId = some metadata) (paid : body.tokenCost ≠ 0)
      (cost : call.tokenCost = body.tokenCost) (current : call.usage = s.budget)
      (distinct : call.deliveries.Nodup) (kept : ∀ item ∈ evidence, item ∈ candidate.evidence)
      (admitted : admitDeliveries request.limits call = (.admitted, usage)) :
      BodyChange s (s.activate request metadata candidate body call.deliveries evidence usage)

/-- One more step of recursion. -/
def Standing.climb (s : Standing) : Standing :=
  { s with
    recursionLevel := next16 s.recursionLevel
    recursionSteps := next16 s.recursionSteps }

/-- One change made by the recursion between two rounds. -/
inductive RecursionChange : Standing → Standing → Prop where
  | recur {s : Standing} (fragment : ScanFragment) (kind : fragment.kind = .recursionContent)
      (depth : fragment.recencyDepth = next16 s.recursionLevel) (begun : s.stage ≠ .start) :
      RecursionChange s
        { s with
          recursionFragments := s.recursionFragments ++ [fragment]
          recursionMatches := s.recursionMatches.insert (fragment.id externals)
            (request.indexSnapshot.matchFragment externals fragment) }
  | climb {s : Standing} (room : s.recursionLevel < request.limits.maxRecursionSteps) :
      RecursionChange s s.climb
  | deepen {s : Standing} (room : s.depthExpansions < request.limits.maxDepthExpansions) :
      RecursionChange s { s with depthExpansions := next16 s.depthExpansions }
  | turn {s : Standing} (stage : Stage) (onward : stage ≠ .start) :
      RecursionChange s { s with stage := stage }

/-- How a round comes to be entered: it is the first one, or recursion leads to it, or the
scan goes deeper. -/
inductive Entry (s : Standing) : ActivationMachineState → Standing → Prop where
  | opening (state : ActivationMachineState) (opening : s.stage = .start) :
      Entry s state { s with stage := .initialRecursion }
  | recursion {t : Standing} (trace : Transition.Reaches (RecursionChange request externals) s t)
      (room : t.recursionLevel < request.limits.maxRecursionSteps) : Entry s .recursion t.climb
  | depth {t : Standing} (trace : Transition.Reaches (RecursionChange request externals) s t)
      (room : t.depthExpansions < request.limits.maxDepthExpansions) :
      Entry s .depthExpansion
        { t with depthExpansions := next16 t.depthExpansions, stage := .depthRecursion }

/-- One change made by any operation of a session. -/
inductive Change : Standing → Standing → Prop where
  | round {s t : Standing} (change : RoundChange request externals allow s t) : Change s t
  | body {s t : Standing} (change : BodyChange request s t) : Change s t
  | recursion {s t : Standing} (change : RecursionChange request externals s t) : Change s t

end

section
variable {request : ActivationRequest} {externals : Externals}
  {allow : Refusal → KnowledgeSourceId → Activated → Prop} {s t : Standing}

/-- What a round leaves alone. -/
structure Standing.SameFrame (s t : Standing) : Prop where
  stage : t.stage = s.stage
  steps : t.recursionSteps = s.recursionSteps
  expansions : t.depthExpansions = s.depthExpansions
  fragments : t.recursionFragments = s.recursionFragments
  matched : t.recursionMatches = s.recursionMatches
  timedValid : t.timedValid = s.timedValid
  timedDelta : t.timedDelta = s.timedDelta
  level : t.recursionLevel = s.recursionLevel
  limits : t.limits = s.limits
  entries : t.activatedEntries = s.activatedEntries

theorem RoundChange.frame (change : RoundChange request externals allow s t) : s.SameFrame t := by
  cases change <;> exact ⟨rfl, rfl, rfl, rfl, rfl, rfl, rfl, rfl, rfl, rfl⟩

theorem Standing.SameFrame.trans {u : Standing} (first : s.SameFrame t) (second : t.SameFrame u) :
    s.SameFrame u where
  stage := second.stage.trans first.stage
  steps := second.steps.trans first.steps
  expansions := second.expansions.trans first.expansions
  fragments := second.fragments.trans first.fragments
  matched := second.matched.trans first.matched
  timedValid := second.timedValid.trans first.timedValid
  timedDelta := second.timedDelta.trans first.timedDelta
  level := second.level.trans first.level
  limits := second.limits.trans first.limits
  entries := second.entries.trans first.entries

/-- A whole round leaves its frame alone. -/
theorem RoundChange.frame_reaches
    (trace : Transition.Reaches (RoundChange request externals allow) s t) : s.SameFrame t :=
  Transition.invariant (P := fun t => s.SameFrame t) (fun same change => same.trans change.frame)
    trace ⟨rfl, rfl, rfl, rfl, rfl, rfl, rfl, rfl, rfl, rfl⟩

theorem Standing.Reads.transport {item : FragmentPatternMatch} (read : s.Reads request externals item)
    (frame : s.SameFrame t) : t.Reads request externals item := by
  unfold Standing.Reads
  rw [frame.fragments, frame.matched]
  exact read

/-- A round activates nothing. -/
theorem RoundChange.inactive {sourceId : KnowledgeSourceId}
    (change : RoundChange request externals allow s t) (inactive : s.activated[sourceId]? = none) :
    t.activated[sourceId]? = none := by
  cases change with
  | extend other existing call usage =>
    dsimp only
    rw [OrdMap.get_modify, inactive, Option.map_none, ite_self]
  | _ => exact inactive

/-- A round only adds to the matches. -/
theorem RoundChange.supports {candidate : Candidate}
    (change : RoundChange request externals allow s t) (supported : s.Supports candidate) :
    t.Supports candidate := by
  cases change with
  | ingest item read =>
    intro evidence member
    obtain ⟨items, found, support, among, same⟩ := supported evidence member
    simp only [Standing.accumulate, OrdMap.get_insert]
    split
    · rename_i here
      rw [here, found]
      exact ⟨_, rfl, support, List.mem_append_left _ among, same⟩
    · exact ⟨items, found, support, among, same⟩
  | _ => exact supported

theorem Entry.reaches {state : ActivationMachineState} (entry : Entry request externals s state t) :
    Transition.Reaches (RecursionChange request externals) s t := by
  cases entry with
  | opening _ _ => exact .single (.turn .initialRecursion (by decide))
  | recursion trace room => exact trace.tail (.climb room)
  | depth trace room => exact (trace.tail (.deepen room)).tail (.turn .depthRecursion (by decide))

/-- A pending candidate has no verdict yet. -/
def Standing.Apart (s : Standing) : Prop :=
  ∀ (sourceId : KnowledgeSourceId) (candidate : Candidate), s.pending[sourceId]? = some candidate →
    s.activated[sourceId]? = none ∧ s.terminalRejections[sourceId]? = none

theorem Standing.Apart.reject {sourceId : KnowledgeSourceId} {reason : ActivationRejectionReason}
    (apart : s.Apart) (absent : s.pending[sourceId]? = none) : (s.reject sourceId reason).Apart := by
  intro other candidate found
  obtain ⟨inactive, unrejected⟩ := apart other candidate found
  refine ⟨inactive, ?_⟩
  simp only [Standing.reject, OrdMap.get_insert]
  split
  · rename_i same
    subst same
    exact absurd (absent.symm.trans found) (by simp)
  · exact unrejected

theorem Standing.Apart.erase {sourceId : KnowledgeSourceId} (apart : s.Apart) :
    { s with pending := s.pending.erase sourceId }.Apart := by
  intro other candidate found
  dsimp only at found
  rw [OrdMap.get_erase] at found
  split at found
  · cases found
  · exact apart other candidate found

theorem RoundChange.apart (change : RoundChange request externals allow s t) (apart : s.Apart) :
    t.Apart := by
  cases change with
  | shed sourceId idle allowed => exact apart.reject (by rw [idle]; simp)
  | refuse sourceId reason inactive absent loose => exact apart.reject absent
  | extend sourceId existing call usage found =>
    intro other candidate pending
    obtain ⟨inactive, unrejected⟩ := apart other candidate pending
    refine ⟨?_, unrejected⟩
    dsimp only
    rw [OrdMap.get_modify, inactive, Option.map_none, ite_self]
  | enter metadata candidate entrant =>
    intro other entered found
    dsimp only at found
    rw [OrdMap.get_insert] at found
    split at found
    · rename_i same
      rw [← same]
      exact ⟨entrant.inactive, entrant.unrejected⟩
    · exact apart other entered found
  | _ => exact apart

theorem BodyChange.apart (change : BodyChange request s t) (apart : s.Apart) : t.Apart := by
  cases change with
  | lose sourceId => exact apart.erase
  | drop sourceId candidate reason found =>
    refine apart.erase.reject ?_
    dsimp only
    rw [OrdMap.get_erase, if_pos rfl]
  | activate metadata candidate body call usage evidence found =>
    intro other pending still
    dsimp only [Standing.activate] at still ⊢
    rw [OrdMap.get_erase] at still
    split at still
    · cases still
    · rename_i different
      rw [OrdMap.get_insert, if_neg different]
      exact apart other pending still

theorem Change.apart (change : Change request externals allow s t) (apart : s.Apart) : t.Apart := by
  cases change with
  | round change => exact change.apart apart
  | body change => exact change.apart apart
  | recursion change => cases change <;> exact apart

theorem Change.limits (change : Change request externals allow s t) : t.limits = s.limits := by
  cases change with
  | round change => exact change.frame.limits
  | body change => cases change <;> rfl
  | recursion change => cases change <;> rfl

end

end Aise.Domain
