import Mathlib.Tactic.Common

/-! What the parts of a turn hand to each other: stages, phases, failures, and the token usage of
the calls to the model. -/
namespace Aise.Domain

inductive TurnStage where
  | turnInitializer | baselineBuilder | writerPlanner | context | contextRetrieval | characterThink
  | storyGenerator | storyStateExtractor | validation | storyRepairer | turnCommitter
  deriving DecidableEq

def TurnStage.asStr : TurnStage → String
  | turnInitializer => "turn_initializer"
  | baselineBuilder => "baseline_ctx_builder"
  | writerPlanner => "writer_planner"
  | context => "context"
  | contextRetrieval => "context_retrieval"
  | characterThink => "character_think"
  | storyGenerator => "story_generator"
  | storyStateExtractor => "story_state_extractor"
  | validation => "validation"
  | storyRepairer => "story_repairer"
  | turnCommitter => "turn_committer"

inductive TurnFailureKind where
  | invalidRequest | storyNotFound | cancelled | deadlineExceeded | revisionConflict
  | idempotencyConflict | backpressure | validationRejected | validationBudgetExhausted
  | tokenBudgetExceeded | llm | store | io | invariantViolation
  deriving DecidableEq

inductive TurnTerminalKind where
  | failed | cancelled | conflict
  deriving DecidableEq

/-- The variant's name, as `{:?}` prints it. -/
def TurnTerminalKind.debug : TurnTerminalKind → String
  | .failed => "Failed"
  | .cancelled => "Cancelled"
  | .conflict => "Conflict"

structure TurnExecutionError where
  kind : TurnFailureKind
  code : String
  stage : Option TurnStage
  message : String
  deriving DecidableEq

namespace TurnExecutionError

def storyRepairNoProgress (stage : Option TurnStage) : TurnExecutionError :=
  ⟨.validationRejected, "story_repair_no_progress", stage,
    "story repair produced byte-identical prose with unresolved issues"⟩

def stateReextractionNoProgress (stage : Option TurnStage) : TurnExecutionError :=
  ⟨.validationRejected, "state_reextraction_no_progress", stage,
    "state re-extraction produced byte-identical output with unresolved issues"⟩

end TurnExecutionError

inductive TurnPhase where
  | created | initialized | prepared | planned | contextReady | storyReady | candidateReady
  | storyRepairRequired | stateReextractionRequired | readyToCommit | committed | failed | cancelled
  | conflict
  deriving DecidableEq

namespace TurnPhase

def isTerminal : TurnPhase → Bool
  | committed | failed | cancelled | conflict => true
  | _ => false

/-- The variant's name, as `{:?}` prints it. -/
def debug : TurnPhase → String
  | created => "Created"
  | initialized => "Initialized"
  | prepared => "Prepared"
  | planned => "Planned"
  | contextReady => "ContextReady"
  | storyReady => "StoryReady"
  | candidateReady => "CandidateReady"
  | storyRepairRequired => "StoryRepairRequired"
  | stateReextractionRequired => "StateReextractionRequired"
  | readyToCommit => "ReadyToCommit"
  | committed => "Committed"
  | failed => "Failed"
  | cancelled => "Cancelled"
  | conflict => "Conflict"

end TurnPhase

/-- The failure phase that goes with a kind. -/
def TurnTerminalKind.phase : TurnTerminalKind → TurnPhase
  | failed => .failed
  | cancelled => .cancelled
  | conflict => .conflict

inductive UsageAccuracy where
  | exact | estimated
  deriving DecidableEq

inductive FinishReason where
  | stop | length | contentFilter | toolCalls
  | other (text : String)
  deriving DecidableEq

structure LlmCharge where
  provider : String
  model : String
  inputTokens : UInt64
  cachedInputTokens : UInt64
  outputTokens : UInt64
  amountMinor : Int64
  priceVersion : String
  deriving DecidableEq

structure LlmTokenUsage where
  inputTokens : UInt64
  cachedInputTokens : Option UInt64
  outputTokens : UInt64
  reasoningTokens : Option UInt64
  totalTokens : UInt64
  accuracy : UsageAccuracy
  deriving DecidableEq

structure LlmCallId where
  text : String
  deriving DecidableEq

inductive LlmCallPurpose where
  | writerPlan | contextRetrieval | characterThink | storyGeneration | storyStateExtraction
  | storyRepair | embedding
  deriving DecidableEq

structure LlmCallUsage where
  callId : LlmCallId
  purpose : LlmCallPurpose
  provider : String
  model : String
  inputTokens : UInt64
  cachedInputTokens : Option UInt64
  outputTokens : UInt64
  totalTokens : UInt64
  accuracy : UsageAccuracy
  pricingVersion : Option String
  charge : Option LlmCharge
  finishReason : Option FinishReason
  deriving DecidableEq

structure LlmBudgetReservation where
  callId : LlmCallId
  reservedInputTokens : UInt64
  reservedOutputTokens : UInt64
  deriving DecidableEq

end Aise.Domain
