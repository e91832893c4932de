import Aise.Domain.Activation.Changes

/-! How a round begins and collects its candidates, as a sequence of changes. A round may be
asked to refuse only where a condition allows it; the condition is followed along the code. -/
namespace Aise.Domain
open Effect Saturating Transition

namespace KnowledgeActivationSession
variable (request : ActivationRequest) (externals : Externals)

/-- `Stage::DepthLoop` up to the round it runs. -/
def enterDepthRound : SessionM (Option ActivationMachineState) := do
  let session ← get
  let limits := request.limits
  let continuation := session.continuation
  if limits.minimumActivations.toNat > continuation.activated.size &&
      continuation.scanDepth < limits.maxScanDepth &&
      continuation.depthExpansions < limits.maxDepthExpansions then do
    modify fun session =>
      { session with
        continuation.scanDepth := next16 continuation.scanDepth
        continuation.depthExpansions := next16 continuation.depthExpansions }
    accountScanFragments request externals
    setStage .depthRecursion
    pure (some .depthExpansion)
  else do
    setStage .done
    pure none

/-- `next_round` up to the round it runs: the state of that round, or none. -/
def enterRound : SessionM (Option ActivationMachineState) := do
  let session ← get
  if !session.pending.isEmpty then throw .continuationMismatch
  else match session.stage with
    | .done => pure none
    | .start => do
      accountScanFragments request externals
      setStage .initialRecursion
      pure (some session.state)
    | .initialRecursion => do
      let step ← expandRecursion request externals
      match step with
      | .none | .exhausted => do
        setStage .depthLoop
        enterDepthRound request externals
      | .expanded => pure (some .recursion)
    | .depthRecursion => do
      let step ← expandRecursion request externals
      match step with
      | .none => do
        setStage .depthLoop
        enterDepthRound request externals
      | .exhausted => do
        setStage .done
        pure none
      | .expanded => pure (some .recursion)
    | .depthLoop => enterDepthRound request externals

/-- The round that was entered, if one was. -/
def runEntered : Option ActivationMachineState → SessionM (Option ActivationRoundOutcome)
  | none => pure none
  | some state => some <$> runRound request externals state

variable {request externals}

theorem depthRound_eq :
    depthRound request externals = enterDepthRound request externals >>= runEntered request externals := by
  unfold depthRound enterDepthRound
  rw [bind_assoc]
  congr 1
  funext session
  dsimp only
  split
  · simp only [bind_assoc, pure_bind, runEntered]
  · simp only [bind_assoc, pure_bind, runEntered]

theorem nextRound_eq :
    nextRound request externals = enterRound request externals >>= runEntered request externals := by
  unfold nextRound enterRound
  rw [bind_assoc]
  congr 1
  funext session
  split
  · rfl
  · cases session.stage with
    | done => simp only [pure_bind, runEntered]
    | start => simp only [bind_assoc, pure_bind, runEntered]
    | initialRecursion =>
      simp only [bind_assoc]
      congr 1
      funext step
      cases step with
      | none => simp only [bind_assoc, depthRound_eq]
      | exhausted => simp only [bind_assoc, depthRound_eq]
      | expanded => simp only [pure_bind, runEntered]
    | depthRecursion =>
      simp only [bind_assoc]
      congr 1
      funext step
      cases step with
      | none => simp only [bind_assoc, depthRound_eq]
      | exhausted => simp only [bind_assoc, pure_bind, runEntered]
      | expanded => simp only [pure_bind, runEntered]
    | depthLoop => exact depthRound_eq

section
variable (request : ActivationRequest) (externals : Externals)
  (allow : Refusal → KnowledgeSourceId → Activated → Prop)

/-- Whether a match is turned down for want of work. -/
def refusesMatch (item : FragmentPatternMatch) (session : KnowledgeActivationSession) : Bool :=
  !session.continuation.terminalRejections.contains item.sourceId &&
    ((request.metadata item.sourceId).any fun metadata => metadata.rule.budgetClass ≠ .mandatory) &&
    add session.continuation.consumed.patternMatches item.matchCount.toUInt64 >
      request.limits.maxPatternMatches

def MatchAllowed (item : FragmentPatternMatch) (session : KnowledgeActivationSession) : Prop :=
  refusesMatch request item session = true →
    allow .unmatched item.sourceId session.continuation.activated

def FragmentAllowed (fragment : ScanFragmentId × List FragmentPatternMatch)
    (session : KnowledgeActivationSession) : Prop :=
  session.continuation.matchedFragmentIds.contains fragment.1 = false →
    Throughout (fun _ => MatchAllowed request allow) (fun _ => ingestMatch request) fragment.2 ⟨⟩
      { session with
        continuation.matchedFragmentIds :=
          session.continuation.matchedFragmentIds.insert fragment.1 }

def TextAllowed (session : KnowledgeActivationSession) : Prop :=
  Onward ((visibleBaseFragments request session.continuation.scanDepth).foldlM
      (lookUp externals request.fragmentMatches) [])
    (fun base => Onward (session.recursionFragments.foldlM
      (lookUp externals session.recursionMatches) base) fun fragments =>
        Throughout (fun _ => FragmentAllowed request allow)
          (fun _ => ingestFragmentMatches request) fragments ⟨⟩) session

def CollectAllowed (session : KnowledgeActivationSession) : Prop :=
  Onward (request.indexSnapshot.constantEntries.foldlM (collectConstant request) ∅)
    (fun constants session =>
      Onward (request.externalSeeds.foldlM (collectSeed request)
        (session.timedValid.toList.foldl (collectSticky request) constants))
        (fun _ => TextAllowed request externals allow) session) session

/-- The candidates a round is over its limit with. -/
def trimmedSources (candidates : Candidates) : List KnowledgeSourceId :=
  let limit := request.limits.maxCandidatesPerRound.toNat
  let ordered := Sorting.sort
    (fun candidate => toLex (!candidateIsMandatory request candidate,
      candidateOrder request candidate)) (valuesOf candidates)
  let retained := (ordered.take limit).map (·.sourceId)
  if candidates.size ≤ limit then []
  else if (ordered.takeWhile (candidateIsMandatory request)).length > limit then []
  else candidates.keys.filter fun sourceId => !retained.contains sourceId

/-- Whether further deliveries of an activated entry are turned down for want of budget. -/
def refusesMerge (candidate : Candidate) (session : KnowledgeActivationSession) : Bool :=
  match request.metadata candidate.sourceId,
    session.continuation.activated[candidate.sourceId]? with
  | some metadata, some existing =>
    let deliveries := candidate.deliveries.filter fun delivery =>
      !existing.deliveries.contains delivery
    let call : Admission := ⟨metadata.rule.budgetClass, candidate.mandatory, existing.tokenCost,
      deliveries, session.budget⟩
    !deliveries.isEmpty && deliveries.all (deliverable metadata.kind) &&
      (admitDeliveries request.limits call).1 = .rejected &&
      !isMandatory metadata.rule.budgetClass candidate.mandatory
  | _, _ => false

def MergeAllowed (candidate : Candidate) (session : KnowledgeActivationSession) : Prop :=
  refusesMerge request candidate session = true →
    allow .undelivered candidate.sourceId session.continuation.activated

def ConsiderAllowed (candidates : Candidates) : KnowledgeActivationSession → Prop :=
  Throughout (fun _ => MergeAllowed request allow) (considerCandidate request)
    (valuesOf candidates) []

def TrimAllowed (collected : Candidates) (session : KnowledgeActivationSession) : Prop :=
  (∀ sourceId ∈ trimmedSources request collected,
      allow .trimmed sourceId session.continuation.activated) ∧
    Onward (trimCandidates request collected) (ConsiderAllowed request allow) session

/-- Every refusal of a round that begins in the session is an allowed one. -/
def RoundAllowed (session : KnowledgeActivationSession) : Prop :=
  CollectAllowed request externals allow session ∧
    Onward (collectCandidates request externals) (fun collected session =>
      TrimAllowed request allow collected
        { session with lastCandidateCount := clamp64 collected.size }) session

end

section
variable {request : ActivationRequest} {externals : Externals}
  {allow : Refusal → KnowledgeSourceId → Activated → Prop} {origin s t : Standing}
  {candidates : Candidates} {candidate incoming : Candidate}

/-- What is true of every candidate a round collects. -/
structure Fair (request : ActivationRequest) (s : Standing) (candidate : Candidate) : Prop where
  distinct : candidate.deliveries.Nodup
  loose : candidate.sticky = true → stickyNow request s.timedValid candidate.sourceId = true
  supported : s.Supports candidate

def Collected (request : ActivationRequest) (s : Standing) (candidates : Candidates) : Prop :=
  ∀ (key : KnowledgeSourceId) (candidate : Candidate), candidates[key]? = some candidate →
    candidate.sourceId = key ∧ Fair request s candidate

/-- Every sticky source is a sticky candidate. -/
def Stuck (request : ActivationRequest) (s : Standing) (candidates : Candidates) : Prop :=
  ∀ sourceId : KnowledgeSourceId, stickyNow request s.timedValid sourceId = true →
    ∃ candidate, candidates[sourceId]? = some candidate ∧ candidate.sticky = true

theorem Fair.transport (fair : Fair request s candidate)
    (change : RoundChange request externals allow s t) : Fair request t candidate where
  distinct := fair.distinct
  loose := by
    rw [change.frame.timedValid]
    exact fair.loose
  supported := change.supports fair.supported

theorem Fair.merge (same : incoming.sourceId = candidate.sourceId)
    (current : Fair request s candidate) (fair : Fair request s incoming) :
    Fair request s (candidate.merge incoming) where
  distinct := sortDedup_nodup _
  loose := by
    intro sticky
    simp only [Candidate.merge, Bool.or_eq_true] at sticky
    rcases sticky with old | new
    · exact current.loose old
    · have covered := fair.loose new
      rwa [same] at covered
  supported := by
    intro evidence member
    rcases List.mem_append.mp member with old | new
    · exact current.supported evidence old
    · have found := fair.supported evidence new
      rwa [same] at found

theorem Collected.transport (collected : Collected request s candidates)
    (change : RoundChange request externals allow s t) : Collected request t candidates := by
  intro key candidate found
  obtain ⟨keyed, fair⟩ := collected key candidate found
  exact ⟨keyed, fair.transport change⟩

theorem Stuck.transport (stuck : Stuck request s candidates)
    (change : RoundChange request externals allow s t) : Stuck request t candidates := by
  unfold Stuck
  rw [change.frame.timedValid]
  exact stuck

theorem Collected.merge (collected : Collected request s candidates)
    (fair : Fair request s incoming) : Collected request s (mergeCandidate candidates incoming) := by
  intro key candidate found
  unfold mergeCandidate at found
  split at found
  · rw [OrdMap.get_insert] at found
    split at found
    · rename_i here
      cases found
      exact ⟨here, fair⟩
    · exact collected key candidate found
  · rename_i current present
    rw [OrdMap.get_insert] at found
    split at found
    · rename_i here
      cases found
      obtain ⟨keyed, known⟩ := collected _ _ present
      exact ⟨keyed.trans here, known.merge keyed.symm fair⟩
    · exact collected key candidate found

/-- Merging never takes a sticky candidate away. -/
theorem sticky_merge {sourceId : KnowledgeSourceId}
    (held : (∃ candidate, candidates[sourceId]? = some candidate ∧ candidate.sticky = true) ∨
      incoming.sourceId = sourceId ∧ incoming.sticky = true) :
    ∃ candidate, (mergeCandidate candidates incoming)[sourceId]? = some candidate ∧
      candidate.sticky = true := by
  unfold mergeCandidate
  by_cases here : incoming.sourceId = sourceId
  · subst here
    split
    · rename_i absent
      rcases held with ⟨current, found, _⟩ | ⟨_, sticky⟩
      · rw [found] at absent
        cases absent
      · exact ⟨incoming, by rw [OrdMap.get_insert, if_pos rfl], sticky⟩
    · rename_i current present
      refine ⟨current.merge incoming, by rw [OrdMap.get_insert, if_pos rfl], ?_⟩
      simp only [Candidate.merge, Bool.or_eq_true]
      rcases held with ⟨other, found, sticky⟩ | ⟨_, sticky⟩
      · rw [found] at present
        cases present
        exact .inl sticky
      · exact .inr sticky
  · rcases held with ⟨current, found, sticky⟩ | ⟨same, _⟩
    · refine ⟨current, ?_, sticky⟩
      split
      · rw [OrdMap.get_insert, if_neg here, found]
      · rw [OrdMap.get_insert, if_neg here, found]
    · exact absurd same here

/-- The state is reached from the origin by changes of a round, with nothing pending. -/
structure Gathering (request : ActivationRequest) (externals : Externals)
    (allow : Refusal → KnowledgeSourceId → Activated → Prop) (origin : Standing)
    (session : KnowledgeActivationSession) : Prop where
  trace : Reaches (RoundChange request externals allow) origin session.standing
  idle : session.standing.pending = ∅

theorem Gathering.step {session next : KnowledgeActivationSession}
    (held : Gathering request externals allow origin session)
    (change : RoundChange request externals allow session.standing next.standing)
    (same : next.standing.pending = session.standing.pending) :
    Gathering request externals allow origin next :=
  ⟨held.trace.tail change, same.trans held.idle⟩

theorem ingestMatch_traces {item : FragmentPatternMatch}
    (read : origin.Reads request externals item) :
    Meets (fun session => Gathering request externals allow origin session ∧
        MatchAllowed request allow item session) (ingestMatch request item)
      (fun _ => Gathering request externals allow origin)
      (Gathering request externals allow origin) := by
  unfold ingestMatch
  refine meets_get_bind fun session held => ?_
  obtain ⟨held, allowed⟩ := held
  dsimp only
  split
  · exact meets_pure fun _ same => same ▸ held
  · rename_i unrejected
    split
    · exact meets_throw fun _ same => same ▸ held
    · rename_i metadata known
      split
      · rename_i ended
        unfold trimUnless
        split
        · exact meets_throw fun _ same => same ▸ held
        · rename_i optional
          refine meets_modify fun _ same => ?_
          subst same
          refine held.step (.shed item.sourceId held.idle (.inr (allowed ?_))) rfl
          simp only [refusesMatch, known, Option.any_some, Bool.and_eq_true, Bool.not_eq_true',
            decide_eq_true_eq]
          exact ⟨⟨Bool.eq_false_iff.mpr unrejected, by simpa using optional⟩, ended⟩
      · refine meets_modify fun _ same => ?_
        subst same
        exact held.step (.ingest item (read.transport (RoundChange.frame_reaches held.trace))) rfl

theorem ingestFragmentMatches_traces {fragment : ScanFragmentId × List FragmentPatternMatch}
    (read : ∀ item ∈ fragment.2, origin.Reads request externals item) :
    Meets (fun session => Gathering request externals allow origin session ∧
        FragmentAllowed request allow fragment session) (ingestFragmentMatches request fragment)
      (fun _ => Gathering request externals allow origin)
      (Gathering request externals allow origin) := by
  unfold ingestFragmentMatches
  refine meets_get_bind fun session held => ?_
  obtain ⟨held, allowed⟩ := held
  split
  · exact meets_pure fun _ same => same ▸ held
  · rename_i unseen
    refine Meets.bind (meets_modify fun _ same => ?_) fun _ => meets_forM_throughout
      fun item member => ingestMatch_traces (read item member)
    subst same
    exact ⟨⟨held.trace, held.idle⟩, allowed (Bool.eq_false_iff.mpr unseen)⟩

/-- Where the matches that are looked up come from. -/
theorem lookUp_reads {matched : BTreeMap ScanFragmentId (List FragmentPatternMatch)}
    {found : List (ScanFragmentId × List FragmentPatternMatch)} {fragment : ScanFragment}
    {P : KnowledgeActivationSession → Prop} {R : FragmentPatternMatch → Prop}
    (known : ∀ pair ∈ found, ∀ item ∈ pair.2, R item)
    (here : ∀ items, matched[fragment.id externals]? = some items → ∀ item ∈ items, R item) :
    Meets P (lookUp externals matched found fragment)
      (fun found session => P session ∧ ∀ pair ∈ found, ∀ item ∈ pair.2, R item) P := by
  unfold lookUp
  split
  · exact meets_throw fun _ holds => holds
  · rename_i items stored
    refine meets_pure fun _ holds => ⟨holds, fun pair member => ?_⟩
    rcases List.mem_append.mp member with old | new
    · exact known pair old
    · rw [List.mem_singleton.mp new]
      exact here items stored

/-- Every fragment that is looked up is one the session reads. -/
theorem lookUps_read {session : KnowledgeActivationSession}
    {E : KnowledgeActivationSession → Prop} (failed : E session) :
    Meets (fun t => t = session)
      ((visibleBaseFragments request session.continuation.scanDepth).foldlM
        (lookUp externals request.fragmentMatches) [])
      (fun base t => t = session ∧
        ∀ pair ∈ base, ∀ item ∈ pair.2, session.standing.Reads request externals item) E := by
  refine (meets_foldlM_mem (E := fun t => t = session) (J := fun base t => t = session ∧
    ∀ pair ∈ base, ∀ item ∈ pair.2, session.standing.Reads request externals item) (fun base fragment member => ?_) []).weaken
    (fun t same => ⟨same, by simp⟩) (fun _ _ holds => holds) (fun t same => same ▸ failed)
  intro t holds
  obtain ⟨inBuffer, kind⟩ := List.mem_filter.mp member
  have visible := (List.mem_filter.mp inBuffer).1
  simp only [Bool.and_eq_true, decide_eq_true_eq, ne_eq] at kind
  exact lookUp_reads (P := fun t => t = session) holds.2
    (fun items stored item among => .inl ⟨fragment, visible, kind.1, items, stored, among⟩) t holds.1

theorem recursionLookUps_read {session : KnowledgeActivationSession}
    {E : KnowledgeActivationSession → Prop} (failed : E session)
    {base : List (ScanFragmentId × List FragmentPatternMatch)} :
    Meets (fun t => t = session ∧
        ∀ pair ∈ base, ∀ item ∈ pair.2, session.standing.Reads request externals item)
      (session.recursionFragments.foldlM (lookUp externals session.recursionMatches) base)
      (fun fragments t => t = session ∧
        ∀ pair ∈ fragments, ∀ item ∈ pair.2, session.standing.Reads request externals item) E := by
  refine (meets_foldlM_mem (E := fun t => t = session) (J := fun base t => t = session ∧
    ∀ pair ∈ base, ∀ item ∈ pair.2, session.standing.Reads request externals item) (fun base fragment member => ?_) base).weaken
    (fun t holds => holds) (fun _ _ holds => holds) (fun t same => same ▸ failed)
  intro t holds
  exact lookUp_reads (P := fun t => t = session) holds.2
    (fun items stored item among => .inr ⟨fragment, member, items, stored, among⟩) t holds.1

theorem Collected.transport_reaches (collected : Collected request s candidates)
    (trace : Reaches (RoundChange request externals allow) s t) : Collected request t candidates :=
  Transition.invariant (P := fun t => Collected request t candidates)
    (fun held change => held.transport change) trace collected

theorem Stuck.transport_reaches (stuck : Stuck request s candidates)
    (trace : Reaches (RoundChange request externals allow) s t) : Stuck request t candidates := by
  unfold Stuck
  rw [(RoundChange.frame_reaches trace).timedValid]
  exact stuck

theorem Stuck.merge (stuck : Stuck request s candidates) :
    Stuck request s (mergeCandidate candidates incoming) :=
  fun sourceId sticky => sticky_merge (.inl (stuck sourceId sticky))

/-- A state of the collecting part of a round, with the candidates it has. -/
structure Gathered (request : ActivationRequest) (externals : Externals)
    (allow : Refusal → KnowledgeSourceId → Activated → Prop) (origin : Standing) (candidates : Candidates)
    (session : KnowledgeActivationSession) : Prop where
  held : Gathering request externals allow origin session
  collected : Collected request session.standing candidates
  stuck : Stuck request session.standing candidates

theorem Gathered.merge {session : KnowledgeActivationSession}
    (gathered : Gathered request externals allow origin candidates session)
    (fair : Fair request session.standing incoming) :
    Gathered request externals allow origin (mergeCandidate candidates incoming) session :=
  ⟨gathered.held, gathered.collected.merge fair, gathered.stuck.merge⟩

theorem collectText_traces (round : UInt16) (candidates : Candidates)
    (entry : KnowledgeSourceId × ActivationEntryMetadata) :
    Meets (Gathered request externals allow origin candidates)
      (collectText request round candidates entry)
      (Gathered request externals allow origin) (Gathering request externals allow origin) := by
  unfold collectText
  refine meets_get_bind fun session gathered => ?_
  have unchanged : Meets (fun t => t = session) (pure candidates : SessionM Candidates)
      (Gathered request externals allow origin) (Gathering request externals allow origin) :=
    meets_pure fun _ same => same ▸ gathered
  dsimp only
  split
  · exact unchanged
  · split
    · exact unchanged
    · rename_i entryMatches stored
      split
      · exact unchanged
      · split
        · exact unchanged
        · split
          · refine Meets.bind (Q := fun _ => Gathered request externals allow origin candidates)
              (meets_modify fun later same => ?_) fun _ => meets_pure fun _ kept => kept
            subst same
            have change : RoundChange request externals allow later.standing
                (later.count .secondaryCondition).standing := .tally _ (.inl rfl)
            exact ⟨gathered.held.step change rfl, gathered.collected.transport change,
              gathered.stuck.transport change⟩
          · refine meets_pure fun _ same => ?_
            subst same
            refine gathered.merge ⟨List.nodup_nil, fun sticky => (Bool.false_ne_true sticky).elim, ?_⟩
            intro evidence member
            obtain ⟨item, among, rfl⟩ := List.mem_map.mp member
            exact ⟨entryMatches, stored, item, (List.mem_filter.mp among).1, rfl, rfl⟩

theorem collectTextCandidates_traces (candidates : Candidates) :
    Meets (fun session => Gathered request externals allow origin candidates session ∧
        TextAllowed request externals allow session)
      (collectTextCandidates request externals candidates)
      (Gathered request externals allow origin) (Gathering request externals allow origin) := by
  unfold collectTextCandidates
  refine meets_get_bind fun session held => ?_
  obtain ⟨gathered, allowed⟩ := held
  unfold TextAllowed at allowed
  dsimp only
  refine Meets.weaken (Meets.onward (lookUps_read gathered.held) fun base =>
      Meets.onward (recursionLookUps_read gathered.held) fun fragments => ?_)
    (fun t same => ⟨same, by rw [same]; exact allowed⟩) (fun _ _ kept => kept) fun _ kept => kept
  have join {t : KnowledgeActivationSession}
      (later : Gathering request externals allow session.standing t) :
      Gathering request externals allow origin t :=
    ⟨gathered.held.trace.trans later.trace, later.idle⟩
  refine Meets.bind (Q := fun _ => Gathered request externals allow origin candidates) ?_
    fun _ => meets_foldlM (collectText_traces _) _ _
  rintro t ⟨⟨rfl, reads⟩, throughout⟩
  have ingested := meets_forM_throughout
    (P := Gathering request externals allow t.standing) (G := FragmentAllowed request allow)
    (fun fragment member => ingestFragmentMatches_traces (reads fragment member)) t
    ⟨⟨.refl, gathered.held.idle⟩, throughout⟩
  cases ran : (forM fragments (ingestFragmentMatches request) : SessionM PUnit) t with
  | ok _ later =>
    rw [ran] at ingested
    exact ⟨join ingested, gathered.collected.transport_reaches ingested.trace,
      gathered.stuck.transport_reaches ingested.trace⟩
  | error _ later =>
    rw [ran] at ingested
    exact join ingested

theorem collectConstant_traces (candidates : Candidates) (sourceId : KnowledgeSourceId) :
    Meets (fun session => Gathering request externals allow origin session ∧
        Collected request session.standing candidates)
      (collectConstant request candidates sourceId)
      (fun candidates session => Gathering request externals allow origin session ∧
        Collected request session.standing candidates)
      (Gathering request externals allow origin) := by
  unfold collectConstant
  split
  · exact meets_throw fun _ holds => holds.1
  · refine meets_pure fun _ holds => ⟨holds.1, holds.2.merge ?_⟩
    exact ⟨List.nodup_nil, fun sticky => (Bool.false_ne_true sticky).elim, fun _ member => by
      cases member⟩

theorem collectSeed_traces (candidates : Candidates) (seed : ExternalActivationSeed) :
    Meets (Gathered request externals allow origin candidates)
      (collectSeed request candidates seed) (Gathered request externals allow origin)
      (Gathering request externals allow origin) := by
  unfold collectSeed
  split
  · exact meets_throw fun _ gathered => gathered.held
  · refine meets_pure fun _ gathered => gathered.merge ?_
    exact ⟨List.nodup_singleton _, fun sticky => (Bool.false_ne_true sticky).elim,
      fun _ member => by cases member⟩

/-- One sticky state, and what it makes of the candidates. -/
theorem collectSticky_keeps {entry : KnowledgeSourceId × ActivationTimedState}
    (stored : s.timedValid[entry.1]? = some entry.2) (collected : Collected request s candidates) :
    Collected request s (collectSticky request candidates entry) ∧
      ∀ sourceId : KnowledgeSourceId,
        (∃ candidate, candidates[sourceId]? = some candidate ∧ candidate.sticky = true) ∨
          entry.1 = sourceId ∧ stickyNow request s.timedValid sourceId = true →
        ∃ candidate, (collectSticky request candidates entry)[sourceId]? = some candidate ∧
          candidate.sticky = true := by
  have covers : stickyNow request s.timedValid entry.1 =
      entry.2.stickyThroughTurn.any fun through => through.get ≥ request.turnNumber.get := by
    rw [stickyNow, stored, Option.any_some]
  unfold collectSticky
  split
  · rename_i covered
    refine ⟨collected.merge ⟨List.nodup_nil, fun _ => covers.trans covered, fun _ member => by
      cases member⟩, fun sourceId held => sticky_merge (held.imp_right fun here => ?_)⟩
    exact ⟨here.1, rfl⟩
  · rename_i uncovered
    refine ⟨collected, fun sourceId held => ?_⟩
    rcases held with old | ⟨rfl, covered⟩
    · exact old
    · exact absurd (covers.symm.trans covered) uncovered

theorem collectSticky_stuck (entries : List (KnowledgeSourceId × ActivationTimedState))
    (stored : ∀ entry ∈ entries, s.timedValid[entry.1]? = some entry.2)
    (collected : Collected request s candidates) :
    Collected request s (entries.foldl (collectSticky request) candidates) ∧
      ∀ sourceId : KnowledgeSourceId,
        (∃ candidate, candidates[sourceId]? = some candidate ∧ candidate.sticky = true) ∨
          (∃ entry ∈ entries, entry.1 = sourceId) ∧ stickyNow request s.timedValid sourceId = true →
        ∃ candidate, (entries.foldl (collectSticky request) candidates)[sourceId]? =
          some candidate ∧ candidate.sticky = true := by
  induction entries generalizing candidates with
  | nil =>
    refine ⟨collected, fun sourceId held => ?_⟩
    rcases held with old | ⟨⟨_, member, _⟩, _⟩
    · exact old
    · cases member
  | cons entry entries ih =>
    obtain ⟨here, rest⟩ := List.forall_mem_cons.mp stored
    obtain ⟨kept, sticks⟩ := collectSticky_keeps here collected
    obtain ⟨collected, later⟩ := ih rest kept
    refine ⟨collected, fun sourceId held => later sourceId ?_⟩
    rcases held with old | ⟨⟨other, member, same⟩, covered⟩
    · exact .inl (sticks sourceId (.inl old))
    · rcases List.mem_cons.mp member with rfl | among
      · exact .inl (sticks sourceId (.inr ⟨same, covered⟩))
      · exact .inr ⟨⟨other, among, same⟩, covered⟩

/-- After the sticky states every sticky source is a candidate. -/
theorem stickies_gathered {session : KnowledgeActivationSession}
    (held : Gathering request externals allow origin session)
    (collected : Collected request session.standing candidates) :
    Gathered request externals allow origin
      (session.timedValid.toList.foldl (collectSticky request) candidates) session := by
  obtain ⟨collected, stuck⟩ := collectSticky_stuck session.timedValid.toList
    (fun entry member => Std.ExtTreeMap.mem_toList_iff_getElem?_eq_some.mp member) collected
  refine ⟨held, collected, fun sourceId covered => stuck sourceId (.inr ⟨?_, covered⟩)⟩
  obtain ⟨state, found⟩ : ∃ state, session.timedValid[sourceId]? = some state := by
    cases found : session.timedValid[sourceId]? with
    | none =>
      change session.timedValid[sourceId]?.any _ = true at covered
      rw [found] at covered
      cases covered
    | some state => exact ⟨state, rfl⟩
  exact ⟨(sourceId, state), Std.ExtTreeMap.mem_toList_iff_getElem?_eq_some.mpr found, rfl⟩

theorem collectCandidates_traces :
    Meets (fun session => Gathering request externals allow origin session ∧
        CollectAllowed request externals allow session) (collectCandidates request externals)
      (Gathered request externals allow origin) (Gathering request externals allow origin) := by
  unfold collectCandidates CollectAllowed
  refine Meets.onward (Q := fun candidates session =>
      Gathering request externals allow origin session ∧
        Collected request session.standing candidates)
    ((meets_foldlM collectConstant_traces _ _).weaken (fun _ held => ⟨held, ?_⟩)
      (fun _ _ kept => kept) fun _ kept => kept) fun constants => ?_
  · intro key candidate found
    simp at found
  · refine meets_get_bind fun session known => ?_
    obtain ⟨⟨held, collected⟩, allowed⟩ := known
    refine Meets.weaken (Meets.onward (meets_foldlM collectSeed_traces _ _)
        collectTextCandidates_traces) (fun t same => ?_) (fun _ _ kept => kept) fun _ kept => kept
    rw [same]
    exact ⟨stickies_gathered held collected, allowed⟩

end

end KnowledgeActivationSession

end Aise.Domain
