import Aise.Domain.Activation.Index

/-! What a session is given, keeps and returns. A `usize` and a `u64` are both 64 bits wide. -/
namespace Aise.Domain

structure ActivationRuntimeLimits where
  minimumActivations : UInt64 := 0
  initialScanDepth : UInt16 := 0
  maxScanDepth : UInt16 := 0
  includeSummaryAtMaxDepth : Bool := false
  maxScanFragments : UInt64 := 0
  maxScanBytes : UInt64 := 0
  maxScanTokens : UInt64 := 0
  maxLiteralPatterns : UInt64 := 0
  maxRegexPatterns : UInt64 := 0
  maxPatternMatches : UInt64 := 0
  maxCandidatesPerRound : UInt64 := 0
  maxRecursionSteps : UInt16 := 0
  maxRecursionFragments : UInt64 := 0
  maxRecursionBytes : UInt64 := 0
  maxRecursionTokens : UInt64 := 0
  maxActivatedEntries : UInt64 := 0
  maxDepthExpansions : UInt16 := 0
  maxExternalCandidates : UInt64 := 0
  maxEvidencePerEntry : UInt64 := 0
  maxEvidenceBytes : UInt64 := 0
  maxItemsPerAudience : UInt64 := 0
  maxTokensPerAudience : UInt64 := 0
  maxTotalItems : UInt64 := 0
  maxTotalTokens : UInt64 := 0
  maxSingleEntryBytes : UInt64 := 0
  reservedTokens : UInt64 := 0
  mandatoryTokens : UInt64 := 0
  deriving DecidableEq

inductive ActivationStoreFailure where
  | unavailable | revisionConflict | notFound | limitExceeded | serialization
  deriving DecidableEq

inductive ActivationError where
  | invalidRule (code : String)
  | invalidRegex
  | indexVersionMismatch
  | snapshotMismatch
  | continuationMismatch
  | workLimitExceeded (limit : String)
  | recursionLimitReached
  | mandatoryBudgetExceeded
  | externalTargetUnauthorized
  | timedStateInconsistent
  | providerFailure (provider : String)
  | store (failure : ActivationStoreFailure)
  deriving DecidableEq

inductive ActivationSeedKind where
  | constant | sticky | textMatch | plannerExactTarget | provider | previewOverride | recursion
  deriving DecidableEq

inductive ActivationStopReason where
  | complete | minimumSatisfied | maximumDepthReached | recursionExhausted | workTrimmed
  deriving DecidableEq

inductive ActivationRejectionReason where
  | disabled | scopeMismatch | delayed | cooldown | recursionExcluded | recursionLevelLocked
  | secondaryCondition | groupLoser | probability | budget | duplicate | workLimit
  deriving DecidableEq

/-- Counts by reason; a reason that never occurred has no entry. -/
abbrev RejectionSummary := ActivationRejectionReason → Option UInt32

def increment (rejections : RejectionSummary) (reason : ActivationRejectionReason) :
    RejectionSummary :=
  Function.update rejections reason (some ((rejections reason).getD 0 + 1))

inductive ActivationMachineState where
  | initial | recursion | depthExpansion | resumed | complete
  deriving DecidableEq

structure ActivationEvidence where
  patternKind : ActivationPatternKind
  patternOrdinal : UInt16
  fragmentKind : ScanFragmentKind
  recencyDepth : UInt16
  stableFragmentOrder : UInt32
  matchCount : UInt16
  groupScoreContribution : UInt16
  round : UInt16
  recursionLevel : UInt16
  deriving DecidableEq

structure ActivationWorkUsage where
  scanFragments : UInt64 := 0
  scanBytes : UInt64 := 0
  scanTokens : UInt64 := 0
  patternMatches : UInt64 := 0
  candidateEvaluations : UInt64 := 0
  recursionSteps : UInt16 := 0
  recursionFragments : UInt64 := 0
  recursionBytes : UInt64 := 0
  recursionTokens : UInt64 := 0
  activatedEntries : UInt64 := 0
  knowledgeTokens : UInt64 := 0

structure ActivationTimedState where
  sourceId : KnowledgeSourceId
  ruleVersion : ActivationRuleVersion
  stickyThroughTurn : Option TurnNumber
  cooldownThroughTurn : Option TurnNumber
  deriving DecidableEq

structure PendingActivationStateDelta where
  upserts : List ActivationTimedState := []
  deletes : BTreeSet KnowledgeSourceId := ∅

structure ExternalActivationSeed where
  sourceId : KnowledgeSourceId
  delivery : KnowledgeDelivery
  kind : ActivationSeedKind
  providerRank : Option UInt32
  mandatory : Bool
  deriving DecidableEq

structure ActivationEntryBody where
  sourceId : KnowledgeSourceId
  kind : KnowledgeKind
  tokenCost : UInt64
  body : BoundedText
  deriving DecidableEq

/-- The first component decides, then the next; see `rank`. -/
structure ActivationOrdering where
  classRank : UInt8
  orderRank : Int32
  scoreRank : UInt16
  sourcePriority : UInt8
  recencyDepth : UInt16
  salienceRank : UInt8
  providerRank : UInt32
  deriving DecidableEq

def ActivationOrdering.rank (ordering : ActivationOrdering) :
    Nat ×ₗ Int ×ₗ Nat ×ₗ Nat ×ₗ Nat ×ₗ Nat ×ₗ Nat :=
  toLex (ordering.classRank.toNat, toLex (ordering.orderRank.toInt,
    toLex (ordering.scoreRank.toNat, toLex (ordering.sourcePriority.toNat,
      toLex (ordering.recencyDepth.toNat, toLex (ordering.salienceRank.toNat,
        ordering.providerRank.toNat))))))

structure ActivatedKnowledgeRef where
  sourceId : KnowledgeSourceId
  deliveries : List KnowledgeDelivery
  activationClass : ActivationSeedKind
  rank : UInt32
  tokenCost : UInt64
  evidence : List ActivationEvidence
  ordering : ActivationOrdering
  deriving DecidableEq

structure ActivationContinuation where
  turnNumber : TurnNumber
  generationTrigger : GenerationTrigger
  knowledgeSnapshot : KnowledgeSnapshotRef
  indexSnapshot : ActivationIndexSnapshotRef
  activated : BTreeMap KnowledgeSourceId ActivatedKnowledgeRef := ∅
  terminalRejections : BTreeMap KnowledgeSourceId ActivationRejectionReason := ∅
  failedProbability : BTreeSet KnowledgeSourceId := ∅
  groupWinners : BTreeMap ActivationGroupKey KnowledgeSourceId := ∅
  recursionLevel : UInt16 := 0
  scanDepth : UInt16
  depthExpansions : UInt16 := 0
  recursionSources : BTreeSet KnowledgeSourceId := ∅
  scannedFragmentIds : BTreeSet ScanFragmentId := ∅
  matchedFragmentIds : BTreeSet ScanFragmentId := ∅
  accumulatedMatches : BTreeMap KnowledgeSourceId (List FragmentPatternMatch) := ∅
  audienceItems : BTreeMap KnowledgeDelivery UInt64 := ∅
  audienceTokens : BTreeMap KnowledgeDelivery UInt64 := ∅
  totalDeliveryItems : UInt64 := 0
  normalTokens : UInt64 := 0
  reservedTokens : UInt64 := 0
  mandatoryTokens : UInt64 := 0
  consumed : ActivationWorkUsage := {}
  evidenceBytes : UInt64 := 0
  limits : ActivationRuntimeLimits

structure ActivationRequest where
  storyId : StoryId
  turnNumber : TurnNumber
  generationTrigger : GenerationTrigger
  knowledgeSnapshot : KnowledgeSnapshotRef
  indexSnapshot : ActivationIndexSnapshot
  scanBuffer : ActivationScanBuffer
  fragmentMatches : BTreeMap ScanFragmentId (List FragmentPatternMatch)
  timedState : List ActivationTimedState
  externalSeeds : List ExternalActivationSeed
  continuation : Option ActivationContinuation
  limits : ActivationRuntimeLimits

def ActivationRequest.metadata (request : ActivationRequest) (sourceId : KnowledgeSourceId) :
    Option ActivationEntryMetadata :=
  request.indexSnapshot.metadata[sourceId]?

structure ActivationRoundOutcome where
  admitted : List KnowledgeSourceId
  state : ActivationMachineState
  candidates : UInt64
  scanDepth : UInt16
  recursionLevel : UInt16
  consumed : ActivationWorkUsage
  rejectionSummary : RejectionSummary

structure ActivationResult where
  activated : List ActivatedKnowledgeRef
  continuation : ActivationContinuation
  pendingTimedState : PendingActivationStateDelta
  rejectionSummary : RejectionSummary
  stopReason : ActivationStopReason

end Aise.Domain
