import Aise.Domain.Activation.Session

/-! The rounds of a session: what each collects, filters and leaves pending, how recursion
and depth expansion lead to the next one, and what is handed back at the end. -/
namespace Aise.Domain
open RustText Saturating

/-- `bytes.div_ceil(4)`. -/
def bytesToTokens (bytes : Nat) : UInt64 := clamp64 ((bytes + 3) / 4)

/-- Whether a match counts for an entry that scans to the given depth. -/
def matchVisible (limits : ActivationRuntimeLimits) (entryDepth : UInt16)
    (item : FragmentPatternMatch) : Bool :=
  item.fragmentKind = .recursionContent ||
    (item.recencyDepth ≤ entryDepth &&
      summaryVisible item.fragmentKind entryDepth limits.includeSummaryAtMaxDepth
        limits.maxScanDepth)

def FragmentPatternMatch.evidence (item : FragmentPatternMatch) (round recursionLevel : UInt16) :
    ActivationEvidence where
  patternKind := item.patternKind
  patternOrdinal := item.patternOrdinal
  fragmentKind := item.fragmentKind
  recencyDepth := item.recencyDepth
  stableFragmentOrder := item.stableFragmentOrder
  matchCount := item.matchCount
  groupScoreContribution := item.groupScoreContribution
  round := round
  recursionLevel := recursionLevel

/-- The set of ordinals among some matches, listed without repetition. -/
def ordinals (counts : FragmentPatternMatch → Bool) (items : List FragmentPatternMatch) :
    List UInt16 :=
  ((items.filter counts).map (·.patternOrdinal)).dedup

namespace KnowledgeActivationSession
variable (request : ActivationRequest) (externals : Externals)

def accountFragment (session : KnowledgeActivationSession) (fragment : ScanFragment) :
    KnowledgeActivationSession :=
  let continuation := session.continuation
  let consumed := continuation.consumed
  let bytes := len fragment.text.value
  if continuation.scannedFragmentIds.contains (fragment.id externals) then session
  else
    { session with
      continuation := { continuation with
        scannedFragmentIds := continuation.scannedFragmentIds.insert (fragment.id externals)
        consumed := { consumed with
          scanFragments := add consumed.scanFragments 1
          scanBytes := add consumed.scanBytes (clamp64 bytes)
          scanTokens := add consumed.scanTokens (bytesToTokens bytes) } } }

def accountScanFragments : SessionM Unit := do
  modify fun session => (visibleBaseFragments request session.continuation.scanDepth).foldl
    (accountFragment externals) session
  let session ← get
  let consumed := session.continuation.consumed
  if consumed.scanFragments > request.limits.maxScanFragments then
    throw (.workLimitExceeded "scan_fragments")
  else if consumed.scanBytes > request.limits.maxScanBytes then
    throw (.workLimitExceeded "scan_bytes")
  else if consumed.scanTokens > request.limits.maxScanTokens then
    throw (.workLimitExceeded "scan_tokens")
  else pure ()

def ingestMatch (item : FragmentPatternMatch) : SessionM Unit := do
  let session ← get
  let continuation := session.continuation
  if continuation.terminalRejections.contains item.sourceId then pure ()
  else match request.metadata item.sourceId with
    | none => throw .indexVersionMismatch
    | some metadata =>
      let next := add continuation.consumed.patternMatches item.matchCount.toUInt64
      if next > request.limits.maxPatternMatches then
        trimUnless (metadata.rule.budgetClass = .mandatory) item.sourceId .workLimit
      else modify fun session =>
        { session with
          continuation.consumed.patternMatches := next
          continuation.accumulatedMatches := continuation.accumulatedMatches.insert item.sourceId
            (continuation.accumulatedMatches[item.sourceId]?.getD [] ++ [item]) }

def ingestFragmentMatches (fragment : ScanFragmentId × List FragmentPatternMatch) :
    SessionM Unit := do
  let session ← get
  if session.continuation.matchedFragmentIds.contains fragment.1 then pure ()
  else do
    modify fun session =>
      { session with
        continuation.matchedFragmentIds :=
          session.continuation.matchedFragmentIds.insert fragment.1 }
    forM fragment.2 (ingestMatch request)

/-- A fragment paired with what it matched, which must be known. -/
def lookUp (matched : BTreeMap ScanFragmentId (List FragmentPatternMatch))
    (found : List (ScanFragmentId × List FragmentPatternMatch)) (fragment : ScanFragment) :
    SessionM (List (ScanFragmentId × List FragmentPatternMatch)) :=
  match matched[fragment.id externals]? with
  | none => throw .indexVersionMismatch
  | some items => pure (found ++ [(fragment.id externals, items)])

/-- One entry of the second loop of `collect_text_candidates`. -/
def collectText (round : UInt16) (candidates : Candidates)
    (entry : KnowledgeSourceId × ActivationEntryMetadata) : SessionM Candidates := do
  let session ← get
  let (sourceId, metadata) := entry
  let rule := metadata.rule
  let continuation := session.continuation
  let entryDepth := min (rule.matchRule.scanDepth.getD continuation.scanDepth) continuation.scanDepth
  if !rule.mode.enabled || rule.mode.constant || rule.mode.exactTargetOnly then pure candidates
  else match continuation.accumulatedMatches[sourceId]? with
    | none => pure candidates
    | some entryMatches =>
      let items := entryMatches.filter (matchVisible request.limits entryDepth)
      let primary := ordinals (·.patternKind.isPrimary) items
      let secondary := ordinals (·.patternKind.isSecondary) items
      let positive := ordinals
        (fun item => item.patternKind.isSecondary && item.groupScoreContribution > 0) items
      if continuation.terminalRejections.contains sourceId then pure candidates
      else if primary.isEmpty then pure candidates
      else if !secondaryLogic rule.matchRule.secondaryLogic secondary.length
          rule.matchRule.secondaryKeys.length then do
        modify fun session => session.count .secondaryCondition
        pure candidates
      else
        let recursionOnly := (items.filter (·.patternKind.isPrimary)).all fun item =>
          item.fragmentKind = .recursionContent
        pure (mergeCandidate candidates {
          sourceId := sourceId
          candidateClass := if recursionOnly then .recursion else .textMatch
          evidence := items.map (·.evidence round continuation.recursionLevel)
          score := clamp16 (primary.length + positive.length)
          mandatory := rule.budgetClass = .mandatory
          recursionOnly := recursionOnly })

def collectTextCandidates (candidates : Candidates) : SessionM Candidates := do
  let session ← get
  let continuation := session.continuation
  let round := clamp16 (continuation.depthExpansions.toNat + continuation.recursionLevel.toNat)
  let base ← (visibleBaseFragments request continuation.scanDepth).foldlM
    (lookUp externals request.fragmentMatches) []
  let fragments ← session.recursionFragments.foldlM
    (lookUp externals session.recursionMatches) base
  forM fragments (ingestFragmentMatches request)
  request.indexSnapshot.metadata.toList.foldlM (collectText request round) candidates

def collectConstant (candidates : Candidates) (sourceId : KnowledgeSourceId) :
    SessionM Candidates :=
  match request.metadata sourceId with
  | none => throw .indexVersionMismatch
  | some metadata =>
    pure (mergeCandidate candidates {
      sourceId := sourceId
      candidateClass := .constant
      mandatory := metadata.rule.budgetClass = .mandatory })

def collectSticky (candidates : Candidates) (entry : KnowledgeSourceId × ActivationTimedState) :
    Candidates :=
  if entry.2.stickyThroughTurn.any fun through => through.get ≥ request.turnNumber.get then
    mergeCandidate candidates { sourceId := entry.1, candidateClass := .sticky, sticky := true }
  else candidates

def collectSeed (candidates : Candidates) (seed : ExternalActivationSeed) : SessionM Candidates :=
  match request.metadata seed.sourceId with
  | none => throw .externalTargetUnauthorized
  | some _ =>
    pure (mergeCandidate candidates {
      sourceId := seed.sourceId
      candidateClass := seed.kind
      providerRank := seed.providerRank
      mandatory := seed.mandatory
      deliveries := [seed.delivery] })

def collectCandidates : SessionM Candidates := do
  let constants ← request.indexSnapshot.constantEntries.foldlM (collectConstant request) ∅
  let session ← get
  let sticky := session.timedValid.toList.foldl (collectSticky request) constants
  let seeded ← request.externalSeeds.foldlM (collectSeed request) sticky
  collectTextCandidates request externals seeded

/-- Mandatory candidates first, then in candidate order, up to the limit of a round. -/
def trimCandidates (candidates : Candidates) : SessionM Candidates :=
  let limit := request.limits.maxCandidatesPerRound.toNat
  if candidates.size ≤ limit then pure candidates
  else
    let ordered := Sorting.sort
      (fun candidate => toLex (!candidateIsMandatory request candidate,
        candidateOrder request candidate)) (valuesOf candidates)
    let retained := (ordered.take limit).map (·.sourceId)
    let rejected := candidates.keys.filter fun sourceId => !retained.contains sourceId
    if (ordered.takeWhile (candidateIsMandatory request)).length > limit then
      throw .mandatoryBudgetExceeded
    else do
      modify fun session =>
        { rejected.foldl (fun session sourceId => session.reject sourceId .workLimit) session with
          budgetTrimmed := true }
      pure (rejected.foldl (fun candidates sourceId => candidates.erase sourceId) candidates)

/-- One candidate of the first loop of `select_round`. -/
def considerCandidate (eligible : List Candidate) (candidate : Candidate) :
    SessionM (List Candidate) := do
  modify fun session =>
    { session with
      continuation.consumed.candidateEvaluations :=
        add session.continuation.consumed.candidateEvaluations 1 }
  match request.metadata candidate.sourceId with
  | none => throw .externalTargetUnauthorized
  | some metadata => do
    let session ← get
    if session.continuation.activated.contains candidate.sourceId then do
      mergeExistingDeliveries request metadata candidate
      pure eligible
    else if session.continuation.terminalRejections.contains candidate.sourceId then pure eligible
    else match session.preFilter request metadata candidate with
      | none => pure (eligible ++ [candidate])
      | some .recursionLevelLocked => do
        modify fun session => session.count .recursionLevelLocked
        pure eligible
      | some reason => do
        modify fun session => session.reject candidate.sourceId reason
        pure eligible

def resolveGroups (candidates : List Candidate) : SessionM (List Candidate) :=
  modifyGet fun session =>
    let (eligible, winners) :=
      survivors request externals session.continuation.groupWinners candidates
    let losers := candidates.filter fun candidate =>
      !(groupsOf request candidate).isEmpty &&
        !eligible.any fun item => item.sourceId = candidate.sourceId
    let decided := { session with continuation.groupWinners := winners }
    (eligible, losers.foldl (fun session candidate =>
      session.reject candidate.sourceId .groupLoser) decided)

/-- One candidate of the second loop of `select_round`. -/
def enterPending (admitted : List KnowledgeSourceId) (candidate : Candidate) :
    SessionM (List KnowledgeSourceId) :=
  let sourceId := candidate.sourceId
  match request.metadata sourceId with
  | none => throw .externalTargetUnauthorized
  | some metadata =>
    if !candidate.sticky && !probabilityAdmits request externals sourceId metadata then do
      modify fun session =>
        { session with
          continuation.failedProbability :=
            session.continuation.failedProbability.insert sourceId }.reject sourceId .probability
      pure admitted
    else do
      let session ← get
      if session.continuation.activated.size + session.pending.size ≥
          request.limits.maxActivatedEntries.toNat then do
        trimUnless (isMandatory metadata.rule.budgetClass candidate.mandatory) sourceId .budget
        pure admitted
      else do
        modify fun session => { session with pending := session.pending.insert sourceId candidate }
        pure (admitted ++ [sourceId])

def selectRound : SessionM (List KnowledgeSourceId) := do
  let collected ← collectCandidates request externals
  modify fun session => { session with lastCandidateCount := clamp64 collected.size }
  let candidates ← trimCandidates request collected
  let considered ← (valuesOf candidates).foldlM (considerCandidate request) []
  let eligible ← resolveGroups request externals considered
  (Sorting.sort (candidateOrder request) eligible).foldlM (enterPending request externals) []

def runRound (state : ActivationMachineState) : SessionM ActivationRoundOutcome := do
  modify fun session => { session with state := state }
  let admitted ← selectRound request externals
  let session ← get
  pure {
    admitted := admitted
    state := state
    candidates := session.lastCandidateCount
    scanDepth := session.continuation.scanDepth
    recursionLevel := session.continuation.recursionLevel
    consumed := session.continuation.consumed
    rejectionSummary := session.rejections }

/-- One source of `add_recursion_fragments`. Its text is taken out whether or not it is
used. -/
def addRecursionFragment (added : UInt64) (sourceId : KnowledgeSourceId) : SessionM UInt64 := do
  let session ← get
  modify fun session =>
    { session with recursionBodies := session.recursionBodies.erase sourceId }
  if session.continuation.recursionSources.contains sourceId then pure added
  else match request.metadata sourceId with
    | none => throw .indexVersionMismatch
    | some metadata => do
      modify fun session =>
        { session with
          continuation.recursionSources := session.continuation.recursionSources.insert sourceId }
      if metadata.rule.recursion.preventRecursion then pure added
      else match session.recursionBodies[sourceId]? with
        | none => throw .snapshotMismatch
        | some (text, tokenCost) =>
          let consumed := session.continuation.consumed
          let bytes := clamp64 (len text.value)
          let fragment : ScanFragment := {
            kind := .recursionContent
            recencyDepth := next16 session.continuation.recursionLevel
            stableOrder := clamp32 session.recursionFragments.length
            text := text }
          if add consumed.recursionFragments 1 > request.limits.maxRecursionFragments ||
              add consumed.recursionBytes bytes > request.limits.maxRecursionBytes ||
              add consumed.recursionTokens tokenCost > request.limits.maxRecursionTokens then
            throw .recursionLimitReached
          else do
            modify fun session =>
              { session with
                recursionMatches := session.recursionMatches.insert (fragment.id externals)
                  (request.indexSnapshot.matchFragment externals fragment)
                recursionFragments := session.recursionFragments ++ [fragment]
                continuation.consumed := { consumed with
                  recursionFragments := add consumed.recursionFragments 1
                  recursionBytes := add consumed.recursionBytes bytes
                  recursionTokens := add consumed.recursionTokens tokenCost } }
            pure (add added 1)

def addRecursionFragments : SessionM UInt64 := do
  let session ← get
  modify fun session => { session with recursionPending := [] }
  (sortDedup session.recursionPending).foldlM (addRecursionFragment request externals) 0

def expandRecursion : SessionM RecursionStep := do
  let added ← addRecursionFragments request externals
  let session ← get
  if added = 0 then pure .none
  else if session.continuation.recursionLevel ≥ request.limits.maxRecursionSteps then do
    modify fun session => { session with recursionExhausted := true }
    pure .exhausted
  else do
    modify fun session =>
      { session with
        continuation.recursionLevel := next16 session.continuation.recursionLevel
        continuation.consumed.recursionSteps := next16 session.continuation.consumed.recursionSteps }
    pure .expanded

def setStage (stage : Stage) : SessionM Unit := modify fun session => { session with stage := stage }

/-- `Stage::DepthLoop`, the last iteration of every loop of `next_round`. -/
def depthRound : SessionM (Option ActivationRoundOutcome) := do
  let session ← get
  let limits := request.limits
  let continuation := session.continuation
  if limits.minimumActivations.toNat > continuation.activated.size &&
      continuation.scanDepth < limits.maxScanDepth &&
      continuation.depthExpansions < limits.maxDepthExpansions then do
    modify fun session =>
      { session with
        continuation.scanDepth := next16 continuation.scanDepth
        continuation.depthExpansions := next16 continuation.depthExpansions }
    accountScanFragments request externals
    setStage .depthRecursion
    some <$> runRound request externals .depthExpansion
  else do
    setStage .done
    pure none

/-- The loop goes round at most twice: from a recursion stage to `DepthLoop`, which always
leaves it. -/
def nextRound : SessionM (Option ActivationRoundOutcome) := do
  let session ← get
  if !session.pending.isEmpty then throw .continuationMismatch
  else match session.stage with
    | .done => pure none
    | .start => do
      accountScanFragments request externals
      setStage .initialRecursion
      some <$> runRound request externals session.state
    | .initialRecursion => do
      let step ← expandRecursion request externals
      match step with
      | .none | .exhausted => do
        setStage .depthLoop
        depthRound request externals
      | .expanded => some <$> runRound request externals .recursion
    | .depthRecursion => do
      let step ← expandRecursion request externals
      match step with
      | .none => do
        setStage .depthLoop
        depthRound request externals
      | .exhausted => do
        setStage .done
        pure none
      | .expanded => some <$> runRound request externals .recursion
    | .depthLoop => depthRound request externals

/-- Whether neither window of a timed state reaches the turn. -/
def expired (state : ActivationTimedState) : Bool :=
  state.stickyThroughTurn.all (fun through => through.get < request.turnNumber.get) &&
    state.cooldownThroughTurn.all fun through => through.get < request.turnNumber.get

def cleanupTimedState (session : KnowledgeActivationSession) : PendingActivationStateDelta where
  upserts := Sorting.sort ActivationTimedState.sourceId session.timedDelta.upserts
  deletes := session.timedValid.toList.foldl (fun deletes entry =>
    if expired request entry.2 && !session.continuation.activated.contains entry.1 then
      deletes.insert entry.1
    else deletes) session.timedDelta.deletes

/-- The activated entries in their final order, each with its rank. -/
def rankedActivated (continuation : ActivationContinuation) : List ActivatedKnowledgeRef :=
  (Sorting.sort (fun entry => toLex (entry.ordering.rank, entry.sourceId))
    (valuesOf continuation.activated)).zipIdx.map fun (entry, index) =>
      { entry with rank := clamp32 (index + 1) }

/-- The ranks written back, and the budget as the session leaves it. -/
def finalContinuation (session : KnowledgeActivationSession) : ActivationContinuation :=
  let budget := session.budget
  { session.continuation with
    consumed.knowledgeTokens := budget.totalTokens
    audienceItems := budget.audienceItems
    audienceTokens := budget.audienceTokens
    totalDeliveryItems := budget.totalItems
    normalTokens := budget.normalTokens
    reservedTokens := budget.reservedTokens
    mandatoryTokens := budget.mandatoryTokens
    activated := (rankedActivated session.continuation).foldl (fun activated entry =>
      activated.modify entry.sourceId fun stored => { stored with rank := entry.rank })
      session.continuation.activated }

def stopReason (session : KnowledgeActivationSession) (activated : Nat) : ActivationStopReason :=
  let limits := request.limits
  let continuation := session.continuation
  if session.recursionExhausted then .recursionExhausted
  else if session.budgetTrimmed then .workTrimmed
  else if limits.minimumActivations.toNat > activated &&
      (continuation.scanDepth = limits.maxScanDepth ||
        continuation.depthExpansions = limits.maxDepthExpansions) then .maximumDepthReached
  else if continuation.depthExpansions > 0 && activated ≥ limits.minimumActivations.toNat then
    .minimumSatisfied
  else .complete

def finish (session : KnowledgeActivationSession) : Except ActivationError ActivationResult :=
  if !session.pending.isEmpty then .error .continuationMismatch
  else
    let activated := rankedActivated session.continuation
    .ok {
      activated := activated
      continuation := session.finalContinuation
      pendingTimedState := cleanupTimedState request session
      rejectionSummary := session.rejections
      stopReason := session.stopReason request activated.length }

end KnowledgeActivationSession

end Aise.Domain
