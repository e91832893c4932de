import Aise.Domain.Retrieval
import Aise.Turn.TurnBudget
import Aise.Turn.TurnValidation

/-! The context of a turn, which the stages of the turn fill in one after the other. -/
namespace Aise.Domain
open RustText Saturating Effect

structure CharacterDecision where
  roleId : RoleId
  decision : BoundedText
  suggestedUtterance : Option BoundedText := none
  deriving DecidableEq

structure StoryGeneratorOutput where
  storyText : BoundedText
  deriving DecidableEq

/-- The records that a context keeps and does not look into. -/
structure TurnRecords where
  Snapshot : Type
  Projection : Type
  Activation : Type
  Envelope : Type
  ChangeSet : Type
  Committed : Type

/-- `serde_json::to_string` of what is measured in bytes. -/
structure TurnJson (T : TurnRecords) where
  plan : WriterPlan → Except String String
  envelope : T.Envelope → Except String String

structure BoundStateExtraction (T : TurnRecords) where
  storyVersion : UInt32
  envelope : T.Envelope

structure TurnExecutionContext (T : TurnRecords) where
  phase : TurnPhase := .created
  budget : TurnBudget
  snapshot : Option T.Snapshot := none
  baseline : Option BaselineContext := none
  plan : Option WriterPlan := none
  narrativeProjection : Option T.Projection := none
  activation : Option T.Activation := none
  retrieved : RetrievedContext := {}
  characterDecisions : List CharacterDecision := []
  story : Option StoryGeneratorOutput := none
  storyVersion : UInt32 := 0
  extraction : Option (BoundStateExtraction T) := none
  validation : Option (ValidationResult T.ChangeSet) := none
  changeSet : Option T.ChangeSet := none
  committedResult : Option T.Committed := none
  terminalKind : Option TurnTerminalKind := none
  terminalError : Option TurnExecutionError := none
  llmCalls : List LlmCallUsage := []
  retrievalSkipped : Bool := false
  characterThinkingSkipped : Bool := false

namespace TurnExecutionContext
variable {T : TurnRecords}

abbrev M (T : TurnRecords) := EStateM TurnExecutionError (TurnExecutionContext T)

def new (budget : TurnBudget) : Except TurnExecutionError (TurnExecutionContext T) :=
  if budget.remainingOutputTokens = 0 then
    .error ⟨.invalidRequest, "zero_output_budget", none,
      "turn budget max_output_tokens must be positive"⟩
  else .ok { budget }

/-! ### Guards -/

def violation (code : String) (stage : Option TurnStage) (message : String) : TurnExecutionError :=
  ⟨.invariantViolation, code, stage, message⟩

def expectPhase (expected : TurnPhase) : M T Unit := do
  let ctx ← get
  throwIf (ctx.phase ≠ expected) (violation "invalid_phase_transition" none
    s!"invalid phase transition: expected {expected.debug}, current {ctx.phase.debug}")

def expectPhaseOneOf (expected : List TurnPhase) : M T Unit := do
  let ctx ← get
  throwIf (ctx.phase ∉ expected) (violation "invalid_phase_transition" none
    (s!"invalid phase transition: expected one of {expected.map TurnPhase.debug}, " ++
      s!"current {ctx.phase.debug}"))

def expectTerminal (expected : TurnTerminalKind) : M T Unit := do
  let ctx ← get
  match ctx.terminalKind with
  | none => pure ⟨⟩
  | some actual =>
    throwIf (actual ≠ expected) (violation "terminal_kind_already_set" none
      s!"terminal kind already set to {actual.debug}, cannot set {expected.debug}")

def expectPlan (stage : TurnStage) (message : String) : M T WriterPlan := do
  let ctx ← get
  match ctx.plan with
  | some plan => pure plan
  | none => throw (violation "missing_writer_plan" (some stage) message)

def ensureStoryBound (story : StoryGeneratorOutput) (stage : TurnStage) : M T Unit := do
  let ctx ← get
  throwIf (isBlank story.storyText.value = true)
    ⟨.llm, "story_text_empty", some stage, "story text must not be empty"⟩
  throwIf (len story.storyText.value > ctx.budget.limits.maxStoryTextBytes)
    ⟨.llm, "story_text_exceeds_bounds", some stage, "story text exceeds its byte bound"⟩

def ensureExtractionBound (json : TurnJson T) (envelope : T.Envelope) (stage : TurnStage) :
    M T Unit := do
  let ctx ← get
  let serialized ← orThrow (json.envelope envelope)
    (violation "extraction_serialization_failed" (some stage))
  throwIf (len serialized > ctx.budget.limits.maxStateExtractionBytes)
    ⟨.llm, "state_extraction_exceeds_bounds", some stage,
      "state extraction output exceeds its byte bound"⟩

/-- The loop over issues of `set_validation_result` and `record_state_extraction_failure`. -/
def ensureIssuesBound (issues : List ValidationIssue) (stage : TurnStage) : M T Unit := do
  let ctx ← get
  issues.forM fun issue =>
    throwIf (len issue.message > ctx.budget.limits.maxValidationIssueBytes)
      (violation "validation_issue_byte_limit" (some stage)
        (s!"validation issue message {len issue.message} bytes exceeds budget " ++
          s!"{ctx.budget.limits.maxValidationIssueBytes}"))

/-! ### The stages before the story -/

def replaceActivation (activation : T.Activation) : M T Unit := do
  expectPhase .planned
  modify fun ctx => { ctx with activation := some activation }

def setNarrativeProjection (projection : T.Projection) : M T Unit := do
  expectPhase .prepared
  modify fun ctx => { ctx with narrativeProjection := some projection }

def completeInitialization : M T Unit := do
  expectPhase .created
  modify fun ctx => { ctx with phase := .initialized }

def setPreparedContext (snapshot : T.Snapshot) (baseline : BaselineContext)
    (narrativeProjection : T.Projection) (activation : T.Activation) : M T Unit := do
  expectPhase .initialized
  let ctx ← get
  let estimated := baseline.estimateTokens
  throwIf (estimated > ctx.budget.limits.maxContextTokens)
    (violation "context_token_budget_exceeded" (some .context)
      (s!"prepared context {estimated.toNat} tokens exceeds budget " ++
        s!"{ctx.budget.limits.maxContextTokens.toNat}"))
  modify fun ctx => { ctx with
    snapshot := some snapshot
    baseline := some baseline
    narrativeProjection := some narrativeProjection
    activation := some activation
    phase := .prepared }

def setWriterPlan (json : TurnJson T) (plan : WriterPlan) : M T Unit := do
  expectPhase .prepared
  let ctx ← get
  let serialized ← orThrow (json.plan plan)
    (violation "plan_serialization_failed" (some .writerPlanner))
  throwIf (len serialized > ctx.budget.limits.maxPlanBytes)
    (violation "plan_byte_limit" (some .writerPlanner)
      s!"writer plan {len serialized} bytes exceeds budget {ctx.budget.limits.maxPlanBytes}")
  modify fun ctx => { ctx with plan := some plan, phase := .planned }

def retrievedLimits (budget : TurnBudget) : RetrievedContextLimits where
  maxRoleAudiences := budget.limits.maxCharacterDecisions
  maxItemsPerAudience := budget.limits.maxItemsPerAudience
  maxTokensPerAudience := budget.limits.maxTokensPerAudience
  maxTotalItems := budget.limits.maxTotalItems
  maxTotalTokens := budget.limits.maxRetrievedTokens
  maxItemBytes := budget.limits.maxItemBytes

def setRetrievedContext (context : RetrievedContext) : M T Unit := do
  expectPhase .planned
  let ctx ← get
  let plan ← expectPlan .context "writer plan is required before retrieval"
  throwIf (∃ roleId ∈ context.characters.keys,
      roleId ∉ plan.characterThinkRequests.map (·.roleId))
    (violation "retrieved_character_audience_unauthorized" (some .context)
      "retrieved character audience has no matching character think request")
  let revalidated ← orThrow
    (RetrievedContext.tryNew context.world context.characters (retrievedLimits ctx.budget))
    fun error => violation error.turnCode (some .context) error.message
  modify fun ctx => { ctx with retrieved := revalidated }

/-- The bytes of decisions, added with `saturating_add`. -/
def decisionBytes (decisions : List CharacterDecision) : Nat :=
  decisions.foldl (fun total decision =>
    min (min (total + len decision.decision.value) max64 +
      (decision.suggestedUtterance.map fun text => len text.value).getD 0) max64) 0

def setCharacterDecisions (decisions : List CharacterDecision) : M T Unit := do
  expectPhase .planned
  let ctx ← get
  throwIf (decisions.length > ctx.budget.limits.maxCharacterDecisions)
    (violation "character_decision_limit" (some .characterThink)
      (s!"character decisions {decisions.length} exceeds budget " ++
        s!"{ctx.budget.limits.maxCharacterDecisions}"))
  let plan ← expectPlan .characterThink "writer plan is required before character decisions"
  throwIf (decisions.length ≠ plan.characterThinkRequests.length)
    (violation "character_decision_count_mismatch" (some .characterThink)
      (s!"character decisions {decisions.length} does not match request count " ++
        s!"{plan.characterThinkRequests.length}"))
  throwIf (∃ pair ∈ decisions.zip plan.characterThinkRequests, pair.1.roleId ≠ pair.2.roleId)
    (violation "character_decision_order_mismatch" (some .characterThink)
      "character decision id does not match the paired request")
  throwIf (¬ (decisions.map (·.roleId)).Nodup)
    (violation "duplicate_character_decision" (some .characterThink)
      "character decision collection contains a duplicate target")
  throwIf (ctx.baseline.any (fun baseline =>
      decisions.any (·.roleId = baseline.playerRole.roleId)) = true)
    (violation "character_think_player_target" (some .characterThink)
      "character decision targets the player character")
  throwIf (decisionBytes decisions > ctx.budget.limits.maxCharacterDecisionBytes)
    (violation "character_decision_byte_limit" (some .characterThink)
      (s!"character decisions {decisionBytes decisions} bytes exceeds budget " ++
        s!"{ctx.budget.limits.maxCharacterDecisionBytes}"))
  modify fun ctx => { ctx with characterDecisions := decisions }

def completeContextPreparation : M T Unit := do
  expectPhase .planned
  modify fun ctx => { ctx with phase := .contextReady }

def skipRetrieval : M T Unit := do
  expectPhase .planned
  modify fun ctx => { ctx with retrieved := {}, retrievalSkipped := true }

def skipCharacterThinking : M T Unit := do
  expectPhase .planned
  let plan ← expectPlan .characterThink "writer plan is required before character thinking"
  throwIf (plan.characterThinkRequests ≠ [])
    (violation "character_thinking_not_skippable" (some .characterThink)
      "writer plan requests character thinking and cannot be skipped")
  modify fun ctx => { ctx with characterDecisions := [], characterThinkingSkipped := true }

/-! ### The story and its validation -/

def setGeneratedStory (story : StoryGeneratorOutput) : M T Unit := do
  expectPhase .contextReady
  ensureStoryBound story .storyGenerator
  modify fun ctx => { ctx with
    story := some story
    storyVersion := 1
    extraction := none
    validation := none
    changeSet := none
    phase := .storyReady }

def setStateExtraction (json : TurnJson T) (envelope : T.Envelope) : M T Unit := do
  expectPhase .storyReady
  ensureExtractionBound json envelope .storyStateExtractor
  modify fun ctx => { ctx with
    extraction := some ⟨ctx.storyVersion, envelope⟩
    validation := none
    changeSet := none
    phase := .candidateReady }

def recordStateExtractionFailure (issues : BoundedValidationIssues) : M T Unit := do
  expectPhaseOneOf [.storyReady, .stateReextractionRequired]
  ensureIssuesBound issues.issues .storyStateExtractor
  modify fun ctx => { ctx with
    extraction := none
    changeSet := none
    validation := some (.reextractState issues)
    phase := .stateReextractionRequired }

def setValidationResult (result : ValidationResult T.ChangeSet) : M T Unit := do
  expectPhase .candidateReady
  ensureIssuesBound result.issues .validation
  match result.decision with
  | .pass => modify fun ctx => { ctx with changeSet := result.intoChangeSet }
  | .repairStory => modify fun ctx => { ctx with extraction := none, changeSet := none }
  | .reextractState => modify fun ctx => { ctx with changeSet := none }
  | .reject => modify fun ctx => { ctx with changeSet := none }
  modify fun ctx => { ctx with phase := result.decision.toTurnPhase, validation := some result }

def replaceStory (story : StoryGeneratorOutput) : M T Unit := do
  expectPhase .storyRepairRequired
  ensureStoryBound story .storyRepairer
  let ctx ← get
  throwIf (ctx.story.any (·.storyText = story.storyText) = true)
    (.storyRepairNoProgress (some .storyRepairer))
  throwIf (ctx.storyVersion.toNat + 1 = UInt32.size)
    (violation "story_version_overflow" (some .storyRepairer) "candidate story version overflow")
  modify fun ctx => { ctx with
    storyVersion := ctx.storyVersion + 1
    story := some story
    extraction := none
    validation := none
    changeSet := none
    phase := .storyReady }

/-- The same text twice. A text that cannot be serialized equals another such. -/
def noProgress (json : TurnJson T) (ctx : TurnExecutionContext T) (envelope : T.Envelope) : Bool :=
  match ctx.extraction, ctx.validation with
  | some existing, some (.reextractState _) =>
    (json.envelope existing.envelope).toOption = (json.envelope envelope).toOption
  | _, _ => false

def replaceStateExtraction (json : TurnJson T) (envelope : T.Envelope) : M T Unit := do
  expectPhase .stateReextractionRequired
  ensureExtractionBound json envelope .storyStateExtractor
  let ctx ← get
  throwIf (noProgress json ctx envelope = true)
    (.stateReextractionNoProgress (some .storyStateExtractor))
  modify fun ctx => { ctx with
    extraction := some ⟨ctx.storyVersion, envelope⟩
    validation := none
    changeSet := none
    phase := .candidateReady }

def consumeCorrectionRound (kind : CorrectionKind) : M T Unit :=
  zoom budget (fun ctx budget => { ctx with budget }) (TurnBudget.consumeCorrectionRound kind)

/-! ### The end of a turn -/

def setCommittedResult (result : T.Committed) : M T Unit := do
  expectPhase .readyToCommit
  modify fun ctx => { ctx with committedResult := some result, phase := .committed }

/-- `mark_failed`, `mark_cancelled` and `mark_conflict`. -/
def mark (kind : TurnTerminalKind) (phase : TurnPhase) (failure : TurnExecutionError) :
    M T Unit := do
  expectTerminal kind
  modify fun ctx => { ctx with
    terminalKind := some kind
    phase := phase
    terminalError := some failure }

def markFailed (failure : TurnExecutionError) : M T Unit := mark .failed .failed failure

def markCancelled (failure : TurnExecutionError) : M T Unit := mark .cancelled .cancelled failure

def markConflict (failure : TurnExecutionError) : M T Unit := mark .conflict .conflict failure

/-- What is left in the context by whoever was lent the budget with `budget_mut`, or the budget and
the list of calls with `llm_call_scope`. -/
def lend (scope : TurnLlmCallScope) : M T Unit :=
  modify fun ctx => { ctx with budget := scope.budget, llmCalls := scope.llmCalls }

end TurnExecutionContext

end Aise.Domain
