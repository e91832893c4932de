import Aise.Domain.Activation.Selection

/-! `KnowledgeActivationSession`. Every operation changes the session in place and may fail;
a failure keeps what was changed before it. -/
namespace Aise.Domain
open RustText Saturating

inductive Stage where
  | start | initialRecursion | depthLoop | depthRecursion | done
  deriving DecidableEq

inductive RecursionStep where
  | none | expanded | exhausted
  deriving DecidableEq

/-- `admissions` is a history of the calls of `admit_deliveries` made in this session. The
source has no such field and nothing here reads it. -/
structure KnowledgeActivationSession where
  continuation : ActivationContinuation
  timedValid : BTreeMap KnowledgeSourceId ActivationTimedState
  timedDelta : PendingActivationStateDelta
  rejections : RejectionSummary
  budget : BudgetUsage
  recursionFragments : List ScanFragment := []
  recursionMatches : BTreeMap ScanFragmentId (List FragmentPatternMatch) := ∅
  recursionPending : List KnowledgeSourceId := []
  recursionBodies : BTreeMap KnowledgeSourceId (BoundedText × UInt64) := ∅
  pending : Candidates := ∅
  stage : Stage := .start
  state : ActivationMachineState
  lastCandidateCount : UInt64 := 0
  budgetTrimmed : Bool := false
  recursionExhausted : Bool := false
  admissions : List Admission := []

abbrev SessionM := EStateM ActivationError KnowledgeActivationSession

def matcherVersion : UInt32 := 1

/-- The limits that must not be zero. -/
def ActivationRuntimeLimits.positive (limits : ActivationRuntimeLimits) : List UInt64 := [
  limits.maxScanFragments, limits.maxScanBytes, limits.maxScanTokens, limits.maxLiteralPatterns,
  limits.maxRegexPatterns, limits.maxPatternMatches, limits.maxCandidatesPerRound,
  limits.maxRecursionSteps.toUInt64, limits.maxRecursionFragments, limits.maxRecursionBytes,
  limits.maxRecursionTokens, limits.maxActivatedEntries, limits.maxDepthExpansions.toUInt64,
  limits.maxExternalCandidates, limits.maxEvidencePerEntry, limits.maxEvidenceBytes,
  limits.maxItemsPerAudience, limits.maxTokensPerAudience, limits.maxTotalItems,
  limits.maxTotalTokens, limits.maxSingleEntryBytes]

def validateRequest (request : ActivationRequest) : Except ActivationError Unit :=
  let limits := request.limits
  let index := request.indexSnapshot
  if limits.positive.any (· = 0) || limits.initialScanDepth > limits.maxScanDepth ||
      limits.maxItemsPerAudience > limits.maxTotalItems ||
      limits.maxTokensPerAudience > limits.maxTotalTokens ||
      limits.reservedTokens > limits.maxTotalTokens ||
      limits.mandatoryTokens > limits.maxTotalTokens ||
      add limits.reservedTokens limits.mandatoryTokens > limits.maxTotalTokens ||
      request.externalSeeds.length > limits.maxExternalCandidates.toNat then
    .error (.workLimitExceeded "runtime_limits")
  else if !index.matchesSnapshot request.knowledgeSnapshot matcherVersion then
    .error .snapshotMismatch
  else if (valuesOf index.metadata).any fun metadata =>
      metadata.rule.matchRule.scanDepth.any (· > limits.maxScanDepth) then
    .error (.invalidRule "scan_depth_exceeded")
  else if index.literalPatternCount > limits.maxLiteralPatterns then
    .error (.workLimitExceeded "literal_patterns")
  else if index.regexPatternCount > limits.maxRegexPatterns then
    .error (.workLimitExceeded "regex_patterns")
  else .ok ()

def newContinuation (request : ActivationRequest) : ActivationContinuation where
  turnNumber := request.turnNumber
  generationTrigger := request.generationTrigger
  knowledgeSnapshot := request.knowledgeSnapshot
  indexSnapshot := request.indexSnapshot.reference
  scanDepth := request.limits.initialScanDepth
  limits := request.limits

/-- Whether a continuation belongs to the request it is resumed with. -/
def continues (request : ActivationRequest) (value : ActivationContinuation) : Bool :=
  value.turnNumber = request.turnNumber && value.generationTrigger = request.generationTrigger &&
    value.knowledgeSnapshot = request.knowledgeSnapshot &&
    value.indexSnapshot = request.indexSnapshot.reference && value.limits = request.limits

/-- The continuation of the request if it belongs to it, else a new one. -/
def chooseContinuation (request : ActivationRequest) :
    Except ActivationError ActivationContinuation :=
  match request.continuation with
  | some value => if continues request value then .ok value else .error .continuationMismatch
  | none => .ok (newContinuation request)

structure TimedView where
  valid : BTreeMap KnowledgeSourceId ActivationTimedState := ∅
  delta : PendingActivationStateDelta := {}

/-- Both windows are set and the cooldown ends before the sticky one. -/
def ActivationTimedState.crossed (state : ActivationTimedState) : Bool :=
  match state.stickyThroughTurn, state.cooldownThroughTurn with
  | some sticky, some cooldown => cooldown.get < sticky.get
  | _, _ => false

def viewState (request : ActivationRequest) (view : TimedView) (state : ActivationTimedState) :
    Except ActivationError TimedView :=
  let stale : TimedView :=
    { view with delta.deletes := view.delta.deletes.insert state.sourceId }
  if view.valid.contains state.sourceId then .error .timedStateInconsistent
  else match request.metadata state.sourceId with
    | none => .ok stale
    | some metadata =>
      if state.ruleVersion ≠ metadata.ruleVersion then .ok stale
      else if state.crossed then .error .timedStateInconsistent
      else .ok { view with valid := view.valid.insert state.sourceId state }

def timedView (request : ActivationRequest) : Except ActivationError TimedView :=
  request.timedState.foldlM (viewState request) {}

namespace KnowledgeActivationSession

def start (request : ActivationRequest) : Except ActivationError KnowledgeActivationSession := do
  validateRequest request
  let continuation ← chooseContinuation request
  let timed ← timedView request
  let budget ← budgetUsage request continuation
  .ok {
    continuation := continuation
    timedValid := timed.valid
    timedDelta := timed.delta
    rejections := (valuesOf continuation.terminalRejections).foldl increment fun _ => none
    budget := budget
    state := if request.continuation.isSome then .resumed else .initial }

/-- The first reason is counted; a later one replaces it uncounted. -/
def reject (session : KnowledgeActivationSession) (sourceId : KnowledgeSourceId)
    (reason : ActivationRejectionReason) : KnowledgeActivationSession :=
  { session with
    continuation.terminalRejections :=
      session.continuation.terminalRejections.insert sourceId reason
    rejections :=
      if session.continuation.terminalRejections.contains sourceId then session.rejections
      else increment session.rejections reason }

/-- `increment` on the session's own summary. -/
def count (session : KnowledgeActivationSession) (reason : ActivationRejectionReason) :
    KnowledgeActivationSession :=
  { session with rejections := increment session.rejections reason }

/-- A rejection for want of budget or work, which `finish` reports as trimmed. -/
def trim (session : KnowledgeActivationSession) (sourceId : KnowledgeSourceId)
    (reason : ActivationRejectionReason) : KnowledgeActivationSession :=
  { session.reject sourceId reason with budgetTrimmed := true }

/-- What a trimmed entry costs a mandatory one: the whole run. -/
def trimUnless (mandatory : Bool) (sourceId : KnowledgeSourceId)
    (reason : ActivationRejectionReason) : SessionM Unit :=
  if mandatory then throw .mandatoryBudgetExceeded
  else modify fun session => session.trim sourceId reason

section
variable (request : ActivationRequest)

def preFilter (session : KnowledgeActivationSession) (metadata : ActivationEntryMetadata)
    (candidate : Candidate) : Option ActivationRejectionReason :=
  let rule := metadata.rule
  let triggers := rule.scope.generationTriggers
  let cooling := session.timedValid[candidate.sourceId]?.any fun state =>
    state.cooldownThroughTurn.any fun through => through.get ≥ request.turnNumber.get
  if !rule.mode.enabled then some .disabled
  else if !triggers.isEmpty && !triggers.contains request.generationTrigger then
    some .scopeMismatch
  else if rule.timing.delayTurns > 0 &&
      request.turnNumber.get ≤ rule.timing.delayTurns.toUInt64 then some .delayed
  else if !candidate.sticky && cooling then some .cooldown
  else if !candidate.sticky && candidate.recursionOnly && rule.recursion.excludeRecursion then
    some .recursionExcluded
  else if !candidate.sticky && rule.recursion.delayUntilRecursion.any fun level =>
      session.continuation.recursionLevel < level then some .recursionLevelLocked
  else none

/-- Every call of `admit_deliveries` a session makes, recorded in its history. -/
def admitTo (budgetClass : ActivationBudgetClass) (forcedMandatory : Bool) (tokenCost : UInt64)
    (deliveries : List KnowledgeDelivery) : SessionM AdmissionOutcome :=
  modifyGet fun session =>
    let call : Admission := ⟨budgetClass, forcedMandatory, tokenCost, deliveries, session.budget⟩
    let (outcome, usage) := admitDeliveries request.limits call
    (outcome, { session with budget := usage, admissions := session.admissions ++ [call] })

def validateDeliveries (kind : KnowledgeKind) (deliveries : List KnowledgeDelivery) :
    SessionM Unit :=
  if deliveries.all (deliverable kind) then pure () else throw .externalTargetUnauthorized

/-- New deliveries of an activated entry. -/
def extend (session : KnowledgeActivationSession) (sourceId : KnowledgeSourceId)
    (deliveries : List KnowledgeDelivery) : KnowledgeActivationSession :=
  { session with
    continuation.activated := session.continuation.activated.modify sourceId fun existing =>
      { existing with deliveries := sortDedup (existing.deliveries ++ deliveries) } }

def mergeExistingDeliveries (metadata : ActivationEntryMetadata) (candidate : Candidate) :
    SessionM Unit := do
  let session ← get
  match session.continuation.activated[candidate.sourceId]? with
  | none => pure ()
  | some existing =>
    let deliveries := candidate.deliveries.filter fun delivery =>
      !existing.deliveries.contains delivery
    if deliveries.isEmpty then pure ()
    else do
      validateDeliveries metadata.kind deliveries
      let outcome ← admitTo request metadata.rule.budgetClass candidate.mandatory
        existing.tokenCost deliveries
      match outcome with
      | .admitted => modify fun session => session.extend candidate.sourceId deliveries
      | .rejected =>
        if isMandatory metadata.rule.budgetClass candidate.mandatory then
          throw .mandatoryBudgetExceeded
        else modify fun session => { session.count .budget with budgetTrimmed := true }

/-- The window an activation opens, `None` when its length is zero. -/
def throughTurn (length : UInt16) (through : UInt64) : Option TurnNumber :=
  if length = 0 then none else turnNumber through

def updateTimedState (metadata : ActivationEntryMetadata) (delta : PendingActivationStateDelta) :
    PendingActivationStateDelta :=
  let timing := metadata.rule.timing
  let sticky := add request.turnNumber.get timing.stickyTurns.toUInt64
  if timing.stickyTurns = 0 ∧ timing.cooldownTurns = 0 then delta
  else
    { deletes := delta.deletes.erase metadata.sourceId
      upserts := (delta.upserts.filter fun state => state.sourceId ≠ metadata.sourceId) ++ [{
        sourceId := metadata.sourceId
        ruleVersion := metadata.ruleVersion
        stickyThroughTurn := throughTurn timing.stickyTurns sticky
        cooldownThroughTurn :=
          throughTurn timing.cooldownTurns (add sticky timing.cooldownTurns.toUInt64) }] }

variable (externals : Externals)

/-- The entry a body becomes once its deliveries are admitted. -/
def activate (metadata : ActivationEntryMetadata) (candidate : Candidate)
    (body : ActivationEntryBody) (deliveries : List KnowledgeDelivery)
    (evidence : List ActivationEvidence) (session : KnowledgeActivationSession) :
    KnowledgeActivationSession :=
  let continuation := session.continuation
  { session with
    continuation := { continuation with
      evidenceBytes := add continuation.evidenceBytes
        (mul (clamp64 evidence.length) externals.evidenceSize)
      activated := continuation.activated.insert body.sourceId {
        sourceId := body.sourceId
        deliveries := deliveries
        activationClass := candidate.candidateClass
        rank := 0
        tokenCost := body.tokenCost
        evidence := evidence
        ordering := activationOrdering request candidate }
      consumed.activatedEntries := add continuation.consumed.activatedEntries 1 }
    timedDelta :=
      if candidate.sticky then session.timedDelta
      else updateTimedState request metadata session.timedDelta
    recursionBodies := session.recursionBodies.insert body.sourceId (body.body, body.tokenCost)
    recursionPending := session.recursionPending ++ [body.sourceId] }

def admitBody (candidate : Candidate) (body : ActivationEntryBody) : SessionM Unit :=
  match request.metadata body.sourceId with
  | none => throw .indexVersionMismatch
  | some metadata =>
    let mandatory := isMandatory metadata.rule.budgetClass candidate.mandatory
    let evidence := (Sorting.sort ActivationEvidence.sortKey candidate.evidence).take
      request.limits.maxEvidencePerEntry.toNat
    let evidenceBytes := mul (clamp64 evidence.length) externals.evidenceSize
    let deliveries := sortDedup (defaultDeliveries metadata.kind ++ candidate.deliveries)
    if metadata.kind ≠ body.kind ∨ body.tokenCost = 0 then throw .snapshotMismatch
    else if len body.body.value > request.limits.maxSingleEntryBytes.toNat then
      trimUnless mandatory body.sourceId .budget
    else do
      let session ← get
      if add session.continuation.evidenceBytes evidenceBytes > request.limits.maxEvidenceBytes then
        trimUnless mandatory body.sourceId .workLimit
      else do
        validateDeliveries metadata.kind deliveries
        let outcome ← admitTo request metadata.rule.budgetClass candidate.mandatory body.tokenCost
          deliveries
        match outcome with
        | .rejected => trimUnless mandatory body.sourceId .budget
        | .admitted =>
          modify (activate request externals metadata candidate body deliveries evidence)

def supplyBody (body : ActivationEntryBody) : SessionM Unit := do
  let session ← get
  match session.pending[body.sourceId]? with
  | none => throw .snapshotMismatch
  | some candidate => do
    modify fun session => { session with pending := session.pending.erase body.sourceId }
    admitBody request externals candidate body

def supplyBodies (bodies : List ActivationEntryBody) : SessionM Unit := do
  forM bodies (supplyBody request externals)
  let session ← get
  if session.pending.isEmpty then pure () else throw .snapshotMismatch

def dropAdmitted (sourceId : KnowledgeSourceId) : SessionM Unit := do
  let session ← get
  if session.pending.contains sourceId then
    modify fun session =>
      { session with pending := session.pending.erase sourceId }.trim sourceId .budget
  else throw .snapshotMismatch

end

end KnowledgeActivationSession

end Aise.Domain
